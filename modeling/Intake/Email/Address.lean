import Intake.DomainName.Basic
import Intake.Text.Basic

/-!
# E-mail addresses

An address is a mailbox and a domain name with an at sign between them. A mailbox is a sequence of atoms
with points between them; quoted mailboxes, names in front of the address and addresses of machines in
place of the name are refused. The whole address has a limited length in UTF-8 in every form in which it
may be passed on.
-/

namespace Intake.Email

/-- The characters of ASCII that atoms are made of, besides letters and digits. -/
def atomMarks : List Char := "_!#$%&'*+-/=?^`\x7b|\x7d~".toList

/-- Whether an atom may contain a character. -/
def isAtomChar (c : Char) : Bool := c.isAlphanum || atomMarks.contains c || 0x80 ≤ c.toNat

/-- Atoms with points between them. -/
def isAtoms (cs : List Char) : Bool :=
  (DomainName.split cs).all fun atom => !atom.isEmpty && atom.all isAtomChar

/-- Whether a text is a mailbox: atoms, and beyond ASCII only what can be shown safely. -/
def isMailbox (cs : List Char) : Bool :=
  isAtoms cs && (cs.all Punycode.isBasic || DomainName.isSafe cs)

/-- The length that no address exceeds. -/
def maxLength : Nat := 254

/-- The length of an address in UTF-8. -/
def lengthOf (mailbox domain : List Char) : Nat :=
  (mailbox.map Char.utf8Size).foldr (· + ·) 0 + 1 + (domain.map Char.utf8Size).foldr (· + ·) 0

/-- Splits an address at its first at sign. -/
def splitAddress (cs : List Char) : Option (List Char × List Char) :=
  match cs.dropWhile (· ≠ '@') with
  | _ :: domain => some (cs.takeWhile (· ≠ '@'), domain)
  | [] => none

/-- Whether an address is short enough in all its forms, the mailbox being composed. -/
def acceptsForms (mailbox : List Char) (d : DomainName) : Bool :=
  isMailbox mailbox && lengthOf mailbox d.unicode ≤ maxLength && lengthOf mailbox d.ascii ≤ maxLength

/-- Whether an address of a mailbox at a domain is accepted, both as it is written and with the mailbox
composed. -/
def acceptsAt (mailbox domain : List Char) : Bool :=
  isMailbox mailbox && lengthOf mailbox domain ≤ maxLength &&
    (DomainName.ofText? domain).any (acceptsForms (Canonical.composed mailbox))

/-- Whether a text is an address that mail can be sent to. -/
def isAccepted (t : Text) : Bool :=
  match t.chars?.bind splitAddress with
  | none => false
  | some (mailbox, domain) => acceptsAt mailbox domain

end Intake.Email
