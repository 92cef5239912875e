/-
# Padding to a width

A column is as wide as its header asks; a shorter text is filled up with a fill character on
the side that the alignment says. Widths count characters.
-/

namespace Casework
namespace Text

/-- On which side of a field the text stands. -/
inductive Align where
  | left
  | right
  | center
deriving DecidableEq, Repr

/-- How a text is laid out in a field: at most `limit` characters of it, filled up with `fill`
to at least `width` characters. -/
structure Field where
  width : Nat := 0
  fill : Char := ' '
  align : Align := .left
  limit : Option Nat := none

/-- The text laid out in the field. A centred text has the odd fill character on its right. -/
def Field.layout (f : Field) (s : String) : String :=
  let cs := match f.limit with
    | some n => s.toList.take n
    | none => s.toList
  let missing := f.width - cs.length
  let before := match f.align with
    | .left => 0
    | .right => missing
    | .center => missing / 2
  String.ofList (List.replicate before f.fill ++ cs ++ List.replicate (missing - before) f.fill)

/-- The text filled up with blanks on its right. -/
def padRight (width : Nat) (s : String) : String := Field.layout ⟨width, ' ', .left, none⟩ s

end Text
end Casework
