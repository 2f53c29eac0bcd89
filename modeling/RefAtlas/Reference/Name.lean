import RefAtlas.Text.Blank
import RefAtlas.Text.Word

/-! # Names of types

A name is written as identifiers joined by `.` or `::`.

* `isQualifiedName`: the texts that are names.
* `lastSegment`: the identifier a name ends in, under which units are known; `shortName` is the same
  on strings. A text of separators only stands for itself.
* `withoutGlobal`: a name without one leading `global::`.
-/

namespace RefAtlas.Reference
set_option autoImplicit false

def isSeparator (c : Char) : Bool := c == '.' || c == ':'

/-- The last segment that is not empty, or the whole text if there is none. -/
def lastSegment (cs : List Char) : List Char :=
  let segment := ((cs.reverse.dropWhile isSeparator).takeWhile fun c => !isSeparator c).reverse
  if segment.isEmpty then cs else segment

/-- The last segment of a name: the id of the unit that the name refers to. -/
def shortName (name : String) : String := String.ofList (lastSegment name.toList)

/-- Reads the rest of a name; `fresh` says that an identifier has to begin here. -/
def continuesName : (fresh : Bool) → List Char → Bool
  | true, [] => false
  | true, c :: rest => Text.isNameStart c && continuesName false rest
  | false, [] => true
  | false, '.' :: rest => continuesName true rest
  | false, ':' :: ':' :: rest => continuesName true rest
  | false, c :: rest => Text.isWord c && continuesName false rest

def isQualifiedName (cs : List Char) : Bool := continuesName true cs

def withoutGlobal (cs : List Char) : List Char :=
  match cs with
  | 'g' :: 'l' :: 'o' :: 'b' :: 'a' :: 'l' :: ':' :: ':' :: rest => rest
  | cs => cs

theorem withoutGlobal_isSuffix (cs : List Char) : withoutGlobal cs <:+ cs := by
  unfold withoutGlobal
  split
  · exact ⟨['g', 'l', 'o', 'b', 'a', 'l', ':', ':'], rfl⟩
  · exact List.suffix_refl _

end RefAtlas.Reference
