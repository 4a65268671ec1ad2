import MustacheBuild.Text.Basic

/-!
Tags: what stands between a pair of double or triple braces, and the ways in which it can be wrong.
The extent of a tag depends only on its braces, so it is known also where the tag itself is refused.
-/
namespace MustacheBuild

inductive Tag where
  /-- Is replaced by the text of a value. -/
  | interpolation (name : Text)
  /-- Begins a section, plain or inverted. -/
  | opening (name : Text) (inverted : Bool)
  /-- Ends the section of that name. -/
  | closing (name : Text)
  | comment
  deriving DecidableEq, Repr

/-- The kinds of braces around a tag. -/
inductive Braces where
  | double
  | triple
  deriving DecidableEq, Repr

/-- Kinds of tag that are recognised and refused. -/
inductive Feature where
  | partials
  | customDelimiters
  deriving DecidableEq, Repr

inductive TagFault where
  /-- The braces that would end the tag do not follow. -/
  | unclosed (expected : Braces)
  | nameless
  | unsupported (feature : Feature)
  deriving DecidableEq, Repr

namespace Braces

def opening : Braces → Text
  | double => ['{', '{']
  | triple => ['{', '{', '{']

def closing : Braces → Text
  | double => ['}', '}']
  | triple => ['}', '}', '}']

/-- The braces that begin a tag whose first two have just been passed, and what follows them. -/
def split : Text → Braces × Text
  | '{' :: body => (triple, body)
  | body => (double, body)

theorem opening_split (t : Text) :
    (split t).1.opening ++ (split t).2 = double.opening ++ t := by
  unfold split
  split <;> rfl

end Braces

namespace Tag

/-- Only an interpolation keeps its line when it is alone on it. -/
def canStandAlone : Tag → Bool
  | interpolation _ => false
  | _ => true

/-- A tag that needs a name, from the text written for the name. -/
def named (make : Text → Tag) (written : Text) : Except TagFault Tag :=
  if written.trim.isEmpty then .error .nameless else .ok (make written.trim)

/-- The tag with the given trimmed content, which its first character classifies. -/
def ofContent : Text → Except TagFault Tag
  | '#' :: name => named (opening · false) name
  | '^' :: name => named (opening · true) name
  | '/' :: name => named closing name
  | '&' :: name => named interpolation name
  | '!' :: _ => .ok comment
  | '>' :: _ => .error (.unsupported .partials)
  | '=' :: _ => .error (.unsupported .customDelimiters)
  | name => named interpolation name

/-- Between triple braces stands a name and nothing else. -/
def ofBody : Braces → Text → Except TagFault Tag
  | .double, content => ofContent content.trim
  | .triple, content => named interpolation content

end Tag
end MustacheBuild
