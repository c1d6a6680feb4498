import GestureScript.Console.Argument.Escape
import GestureScript.Console.Argument.Lexer
import GestureScript.Console.Argument.Template

/-!
# What stands in quotations

Letters in front of a quotation tell how it is read: as bytes, as it stands, or as a
template. Quotations one behind the other are read as one. Here it is found out
what is wrong with them; what they say is of no use.
-/

set_option autoImplicit false

namespace GestureScript.Console.Argument

structure Quotation where
  isBytes : Bool
  isRaw : Bool
  isTemplate : Bool
  body : List Char
  deriving DecidableEq, Repr

namespace Quotation

def ofToken (t : Token) : Quotation :=
  let cs := t.text.toList
  let letters := ((Lexer.letters? cs).getD "").toList
  let marked := cs.drop letters.length
  let marks := if marked.head?.any fun q => [q, q, q].isPrefixOf marked && 6 ≤ marked.length
    then 3 else 1
  { isBytes := letters.contains 'b'
    isRaw := letters.contains 'r'
    isTemplate := letters.contains 'f'
    body := (marked.drop marks).take (marked.length - 2 * marks) }

/-- What is wrong with a quotation that is not a template. -/
def fault? (q : Quotation) : Option String :=
  if q.isBytes then
    if q.body.any fun c => 0x80 ≤ c.toNat then
      some "bytes can only contain ASCII literal characters"
    else if q.isRaw then none
    else Escape.wrongInBytes? q.body
  else if q.isTemplate || q.isRaw then none
  else Escape.wrongInText? q.body

/-- What is wrong with quotations, of which the first decides what all have to be.
Expressions in templates are left to `wrong?`. -/
def complaintIn? (wrong? : List Char → Option String) (isBytes : Option Bool) :
    List Quotation → Option Complaint
  | [] => none
  | q :: qs =>
    match q.fault? with
    | some message => some (.here message)
    | none =>
      if isBytes.any (· != q.isBytes) then
        some (.here "cannot mix bytes and nonbytes literals")
      else
        match if q.isTemplate then Template.complaint? wrong? q.isRaw q.body else none with
        | some complaint => some complaint
        | none => complaintIn? wrong? (some q.isBytes) qs

end Quotation

end GestureScript.Console.Argument
