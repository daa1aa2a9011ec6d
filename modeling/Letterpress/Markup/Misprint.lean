import Letterpress.Markup.Element
import Letterpress.Text.Quoted

/-! What can be wrong with a document, and how it is reported. -/
namespace Letterpress.Markup

inductive Fault
  | flaw (flaw : Flaw)
  | unknownTag (name : String)
  | misplaced (name parent : String)
  | secondRoot (name : String)
  | wrongRoot (name : String)
  | attributeFlaw (name : String) (flaw : AttributeFlaw)
  | unknownAttribute (key name : String)
  | unreadableWidth (name value : String)
  | missingAttribute (name key : String)
  | wrongClosing (name expected : String)
  | strayClosing (name : String)
  | strayText (parent : Option String)
  | strayCharacterData
  | unclosedTag (name : String)
  | unclosedContent (name : String) (flaw : Flaw)
  | noRoot
  deriving DecidableEq, Repr

def Fault.message : Fault → String
  | flaw f => "malformed markup: " ++ f.message
  | unknownTag name => "unknown tag <" ++ name ++ ">"
  | misplaced name parent => "<" ++ name ++ "> is not allowed inside <" ++ parent ++ ">"
  | secondRoot name => "unexpected <" ++ name ++ "> after the <mjml> root element"
  | wrongRoot name => "expected <mjml> root element, found <" ++ name ++ ">"
  | attributeFlaw name f => "malformed attribute on <" ++ name ++ ">: " ++ f.message
  | unknownAttribute key name => "unknown attribute `" ++ key ++ "` on <" ++ name ++ ">"
  | unreadableWidth name value => "malformed attribute `width` on <" ++ name ++ ">: " ++ Text.quoted value
  | missingAttribute name key => "<" ++ name ++ "> requires a `" ++ key ++ "` attribute"
  | wrongClosing name expected => "unexpected closing tag </" ++ name ++ ">, expected </" ++ expected ++ ">"
  | strayClosing name => "unexpected closing tag </" ++ name ++ ">"
  | strayText (some parent) => "unexpected text inside <" ++ parent ++ ">"
  | strayText none => "unexpected text outside of <mjml>"
  | strayCharacterData => "unexpected CDATA section outside of an ending tag"
  | unclosedTag name => "unclosed tag <" ++ name ++ ">"
  | unclosedContent name f => "unclosed tag <" ++ name ++ ">: " ++ f.message
  | noRoot => "document has no <mjml> root element"

/-- A fault and the byte offset at which it is reported. -/
structure Misprint where
  offset : Nat
  fault : Fault
  deriving DecidableEq, Repr

structure CompileError where
  place : Position
  message : String
  deriving DecidableEq, Repr

def CompileError.text (e : CompileError) : String := e.place.text ++ ": " ++ e.message

def Misprint.report (source : List Char) (m : Misprint) : CompileError :=
  ⟨.ofOffset source m.offset, m.fault.message⟩

end Letterpress.Markup
