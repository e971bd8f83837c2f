import BigO.Text.Pattern

/-! Comments. Nothing here knows of string literals: a comment mark inside a quoted literal begins a
comment like any other. -/

namespace BigO.Source

/-- Removes closed block comments from the rest of a text, behind what is `kept` (the newest
first). Inside a comment `opened` holds all that was read since its opening mark, the newest
first, because a comment that is never closed stays. -/
def dropBlocks (kept : Text) : (opened : Option Text) → Text → Text
  | none, [] => kept.reverse
  | some inside, [] => (inside ++ kept).reverse
  | none, c :: [] => (c :: kept).reverse
  | some inside, c :: [] => (c :: inside ++ kept).reverse
  | none, c :: d :: rest =>
    if c = '/' ∧ d = '*' then dropBlocks kept (some [d, c]) rest
    else dropBlocks (c :: kept) none (d :: rest)
  | some inside, c :: d :: rest =>
    if c = '*' ∧ d = '/' then dropBlocks kept none rest
    else dropBlocks kept (some (c :: inside)) (d :: rest)

/-- The text without its closed block comments, found in one pass from the left. A block comment
that is never closed stays, with all that follows it. -/
def stripBlockComments (code : Text) : Text := dropBlocks [] none code

/-- Two slashes and the rest of the line. -/
def slashComment : Pattern Unit := Pattern.anywhere do
  let _ ← Reader.exactly (text "//")
  let _ ← Reader.run (· ≠ '\n')
  return ()

/-- A hash sign with no backslash before it and the rest of the line. -/
def hashComment : Pattern Unit := Pattern.after (fun before => before ≠ some '\\') do
  let _ ← Reader.char '#'
  let _ ← Reader.run (· ≠ '\n')
  return ()

/-- Removes the comments of braced code: block comments first, then line comments in what is left.
-/
def stripBracedComments (code : Text) : Text :=
  slashComment.replace (fun _ => []) (stripBlockComments code)

/-- Removes the comments of indented code. -/
def stripIndentedComments (code : Text) : Text := hashComment.replace (fun _ => []) code

end BigO.Source
