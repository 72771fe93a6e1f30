/-!
# Templates

A template is a text with placeholders.  `Template.fill` puts a value in the place of every
placeholder in one pass from left to right: what has been put in is not looked at again, and all
other text stays as it is.
-/

namespace Corpus

namespace Template

/-- A placeholder and what stands for it. -/
structure Slot where
  placeholder : List Char
  value : List Char

def slotAt (slots : List Slot) (text : List Char) : Option Slot :=
  slots.find? fun slot => slot.placeholder.isPrefixOf text

/-- Fills a template of which `skip` characters belong to a placeholder that was already put in. -/
def fillFrom (slots : List Slot) : Nat → List Char → List Char
  | _, [] => []
  | skip + 1, _ :: text => fillFrom slots skip text
  | 0, char :: text =>
    match slotAt slots (char :: text) with
    | some slot => slot.value ++ fillFrom slots (slot.placeholder.length - 1) text
    | none => char :: fillFrom slots 0 text

def fill (slots : List Slot) (template : List Char) : List Char :=
  fillFrom slots 0 template

def occurs (part : List Char) : List Char → Bool
  | [] => part.isEmpty
  | char :: text => part.isPrefixOf (char :: text) || occurs part text

end Template

end Corpus
