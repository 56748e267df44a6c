/-
  File:      McpFleet/Url/Domain.lean
  Subject:   Domain names: the one form of a name that may be written in many
             ways, and which names are none.

  Each character is read as the one it stands for, the text is composed, and
  the characters of ASCII that no name can hold are looked for only then. A
  label in ASCII form has to stand for a label that is in its one form. The
  labels are judged last: how they begin, their joiners, their length, and
  together their direction.
-/
import McpFleet.Url.Direction
import McpFleet.Url.DomainTable
import McpFleet.Url.Joiner
import McpFleet.Url.Punycode

namespace McpFleet.Url

/-! ## 1. Texts -/

/-- Characters of ASCII that no domain name can hold. -/
def isForbiddenInDomain (c : Char) : Bool :=
  c.toNat ≤ 0x20 || c.toNat == 0x7F || "%#/:<>?@[\\]^|".toList.contains c

/-- What a character of a domain name is read as. -/
def foldDomainChar (c : Char) : Option (List Char) :=
  if c.toNat < 0x80 then some [Text.lowerChar c]
  else if ignored.contains c then some []
  else (mapped.image? c).or (if refused.contains c then none else some [c])

/-- The one form of the characters of a domain name. -/
def foldDomainText? (cs : List Char) : Option (List Char) :=
  ((cs.mapM foldDomainChar).map fun read => Text.composed read.flatten).filter fun text =>
    !text.any isForbiddenInDomain

/-! ## 2. Labels -/

/-- The longest ASCII form that is read, without its `xn--`. -/
def maxAsciiForm : Nat := 2000

/-- The most characters of a label that is not in ASCII. -/
def maxLabel : Nat := 1000

/-- Whether every character is in ASCII. -/
def isAsciiText (cs : List Char) : Bool := cs.all (·.toNat < 0x80)

/-- What can stand behind `xn--`. -/
def isAsciiForm (form : List Char) : Bool :=
  !form.isEmpty && form.getLast? ≠ some '-' && isAsciiText form && form.length ≤ maxAsciiForm

/-- The label that a label in ASCII form stands for. Other labels stand for
    themselves. -/
def expandLabel? (label : List Char) : Option (List Char) :=
  match label with
  | 'x' :: 'n' :: '-' :: '-' :: form =>
    if isAsciiForm form then
      (Punycode.decode? form).filter fun cs => foldDomainText? cs = some cs
    else none
  | _ => some label

/-- Whether a label can stand in a domain name. -/
def isValidLabel (label : List Char) : Bool :=
  (match label with
    | [] => true
    | c :: _ => !Text.isMark c)
    && joinersFit [] label && (isAsciiText label || label.length ≤ maxLabel)

/-! ## 3. Names -/

/-- Whether a text in its one form is a domain name. -/
def isDomainName (name : List Char) : Bool :=
  ((Text.splitOn '.' name).mapM expandLabel?).any fun labels =>
    labels.all isValidLabel && allKeepOrder labels

/-- **The one form of a domain name**, if the text is a domain name. -/
def foldDomain? (cs : List Char) : Option (List Char) :=
  (foldDomainText? cs).filter isDomainName

end McpFleet.Url
