/-
Texts put together from texts and numbers, and texts taken apart.

Between neighbours a separator is written.  `pieces` is the way back where the separator is a
single character that does not occur within the texts.
-/
namespace NetDraft.Text

/-- The texts one after the other, with the separator between neighbours. -/
def joined (separator : List Char) : List (List Char) → List Char
  | [] => []
  | [last] => last
  | first :: rest => first ++ separator ++ joined separator rest

/-- The stretches of a list between occurrences of a separator, empty ones included. -/
def pieces {α : Type} [DecidableEq α] (separator : α) : List α → List (List α)
  | [] => [[]]
  | x :: rest =>
    if x = separator then [] :: pieces separator rest
    else match pieces separator rest with
      | first :: others => (x :: first) :: others
      | [] => [[x]]

/-- The digits of a natural number. -/
def digits (n : Nat) : List Char := Nat.toDigits 10 n

/-- The decimal text of a natural number. -/
def decimal (n : Nat) : String := String.ofList (digits n)

/-- The digits of an integer, behind a minus sign if it is negative. -/
def signedDigits (i : Int) : List Char :=
  if i < 0 then '-' :: digits i.natAbs else digits i.natAbs

end NetDraft.Text
