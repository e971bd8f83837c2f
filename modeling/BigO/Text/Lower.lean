import BigO.Text.Basic
import BigO.Text.CaseRanges

/-! Lower-casing of texts in all scripts. A capital sigma at the end of a word becomes a final
sigma, and a capital I with a dot becomes two code points. -/

namespace BigO

namespace CodePoint

/-- The code point is passed over when the neighbours of a sigma are looked at. -/
def isCaseIgnorable (c : CodePoint) : Bool := Text.caseIgnorableRanges.contains c.val

/-- The code point is a cased letter that is not passed over. -/
def isCased (c : CodePoint) : Bool := Text.casedRanges.contains c.val

/-- The simple lower-case mapping. -/
def lower (c : CodePoint) : CodePoint :=
  if c.val < 0x80 then
    if 0x41 ≤ c.val ∧ c.val ≤ 0x5A then ofNat (c.val + 0x20) else c
  else
    match Text.lowerRuns.find? fun (first, stop, step, _) =>
        first ≤ c.val && c.val < stop && (c.val - first) % step == 0 with
    | some (first, _, _, target) => ofNat (target + (c.val - first))
    | none => c

end CodePoint

namespace Text

/-- The nearest code point that is not passed over is a cased letter. -/
def casedNext (t : Text) : Bool :=
  (t.dropWhile CodePoint.isCaseIgnorable).head?.any CodePoint.isCased

/-- The lower-case form of one code point between what stands before it, the nearest first, and what
follows. -/
def lowerOne (before : Text) (c : CodePoint) (rest : Text) : Text :=
  if c.val = 0x3A3 then
    [CodePoint.ofNat (if casedNext before && !casedNext rest then 0x3C2 else 0x3C3)]
  else if c.val = 0x130 then [CodePoint.ofNat 0x69, CodePoint.ofNat 0x307]
  else [c.lower]

/-- Lower-cases the rest of a text behind `before`, whose lower-case form is `done`; both have the
newest code point first. -/
def lowerFrom (before done : Text) : Text → Text
  | [] => done.reverse
  | c :: rest => lowerFrom (c :: before) ((lowerOne before c rest).reverse ++ done) rest

/-- The text in lower case. -/
def lower (t : Text) : Text := lowerFrom [] [] t

end Text

end BigO
