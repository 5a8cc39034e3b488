import ServiceContracts.Text.Blank
import ServiceContracts.Text.Case
import ServiceContracts.Text.CodePoint

/-!
# HTTP methods

Calls use one of seven methods; an endpoint may also be registered for all of them. Methods are
read in any case and with blanks around them.

* `Verb.read?` : the method of a call;
* `Verb.registered?` : the method of an endpoint, `ALL` included;
* `Verb.precedes` : the order in which a report lists methods.
-/

namespace ServiceContracts

/-- The method of a call. -/
inductive Verb where
  | get
  | post
  | put
  | patch
  | delete
  | head
  | options
deriving DecidableEq, Repr

namespace Verb

/-- All methods in their usual order. -/
def all : List Verb := [get, post, put, patch, delete, head, options]

/-- The name of a method. -/
def name : Verb → String
  | get => "GET"
  | post => "POST"
  | put => "PUT"
  | patch => "PATCH"
  | delete => "DELETE"
  | head => "HEAD"
  | options => "OPTIONS"

/-- The method under which an endpoint serves every call. -/
def any : String := "ALL"

/-- A method name without blanks around it and in upper case. -/
def canonical (text : String) : String := Text.upper (Text.trim text)

def read? (text : String) : Option Verb := all.find? fun v => v.name == canonical text

def registered? (text : String) : Option String :=
  match read? text with
  | some v => some v.name
  | none => if canonical text = any then some any else none

/-- The place of a method name in the usual order; unknown names come last. -/
def rank (name : String) : Nat := all.findIdx fun v => v.name == name

def precedes (a b : String) : Bool :=
  rank a < rank b || (rank a == rank b && Text.precedes a b)

end Verb

end ServiceContracts
