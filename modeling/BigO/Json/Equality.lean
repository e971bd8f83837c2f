import BigO.Json.Basic

/-! When two JSON values say the same: numbers by their value, with the truth values as one and
zero, and objects whatever the order of their members. -/

namespace BigO

/-- Two numbers have the same value. What is no number is the same as itself. -/
def Number.same : Number → Number → Bool
  | .int m, .int n => m = n
  | .int m, .float y => y.toDyadic?.any fun (n, k) => m * twoPow k = n
  | .float x, .int n => x.toDyadic?.any fun (m, k) => m = n * twoPow k
  | .float x, .float y =>
    match x.toDyadic?, y.toDyadic? with
    | some (m, j), some (n, k) => m * twoPow k = n * twoPow j
    | _, _ => x = y

namespace Json

/-- The number that a value counts as. -/
def asNumber? : Json → Option Number
  | .bool b => some (.int (if b then 1 else 0))
  | .num n => some n
  | _ => none

mutual

/-- Two values say the same. -/
def same : Json → Json → Bool
  | .null, .null => true
  | .bool b, y => y.asNumber?.any (Number.same (.int (if b then 1 else 0)))
  | .num n, y => y.asNumber?.any n.same
  | .str s, .str t => s = t
  | .arr xs, .arr ys => sameItems xs ys
  | .obj xs, .obj ys => xs.length = ys.length && sameMembers xs ys
  | _, _ => false

/-- Two lists have the same items. -/
def sameItems : List Json → List Json → Bool
  | [], [] => true
  | x :: xs, y :: ys => same x y && sameItems xs ys
  | _, _ => false

/-- All of these members are among those. -/
def sameMembers : List (Text × Json) → List (Text × Json) → Bool
  | [], _ => true
  | (name, x) :: xs, ys =>
    (match member? ys name with
      | some y => same x y
      | none => false) && sameMembers xs ys

end

end Json

end BigO
