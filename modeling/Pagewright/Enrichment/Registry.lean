import Pagewright.Fault
import Pagewright.Value.Basic

/-!
# Pagewright.Enrichment.Registry

Dynamic elements: elements whose slot data is completed by a provider before they are shown.  A
registry knows the providers by slug.  A provider may ask a source of posts for a number of posts; what
it asked for is part of the outcome.
-/

namespace Pagewright.Enrichment

/-- Why data could not be completed. -/
inductive Failure where
  /-- Something in the provider went wrong. -/
  | fault (f : Fault)
  /-- The provider, or the registry for it, reports a failure. -/
  | reported (message : String) (context : Members)

/-- What came of asking a provider: the numbers of posts it asked for, and its answer. -/
structure Outcome (α : Type) where
  requests : List Int
  result : Except Failure α

/-- Completes slot data. -/
abbrev Provider := Members → Outcome Value

/-- Something that completes the data of some elements.  It may fail to tell whether an element is one of them. -/
structure Enricher where
  isDynamic : String → Except Fault Bool
  enrich : String → Members → Outcome Value

/-- The wording of a fault inside a provider. -/
def faultText : Fault → String
  | .wrongKind => "unsupported operand type"
  | .badValue => "invalid value"
  | .noMember => "object has no such attribute"
  | .missingKey => "missing key"
  | .overflow => "cannot convert float infinity to integer"
  | .endless => "maximum recursion depth exceeded"
  | .unavailable message => message
  | .alreadyExists => "file exists"
  | .notDirectory => "not a directory"
  | .isDirectory => "is a directory"
  | .nameTooLong => "file name too long"
  | .notEncodable => "surrogates not allowed"

/-- Providers by slug, in the order of their registration. -/
structure Registry where
  providers : List (String × Provider)

namespace Registry

/-- The registry without providers. -/
def empty : Registry := ⟨[]⟩

/-- Puts a provider in the place of the one with the same slug, or at the end. -/
def put (slug : String) (p : Provider) : List (String × Provider) → List (String × Provider)
  | [] => [(slug, p)]
  | (s, q) :: rest => if s = slug then (s, p) :: rest else (s, q) :: put slug p rest

/-- Registers a provider. -/
def register (r : Registry) (slug : String) (p : Provider) : Registry := ⟨put slug p r.providers⟩

/-- Whether a slug has a provider. -/
def isDynamic (r : Registry) (slug : String) : Bool := (r.providers.lookup slug).isSome

/-- The failure of a provider, as the registry reports it. -/
def report (slug : String) : Failure → Failure
  | .reported message context => .reported message context
  | .fault f =>
    .reported ("动态元素 " ++ slug ++ " 数据补全失败: " ++ faultText f) [("slug", .str slug)]

/-- Asks the provider of a slug to complete data; data without a provider is complete.  A provider must
answer with an object. -/
def enrich (r : Registry) (slug : String) (data : Members) : Outcome Value :=
  match r.providers.lookup slug with
  | none => ⟨[], .ok (.obj data)⟩
  | some p =>
    let outcome := p data
    ⟨outcome.requests,
      match outcome.result with
      | .ok (.obj ms) => .ok (.obj ms)
      | .ok _ =>
        .error (.reported ("动态元素 " ++ slug ++ " 的提供者返回了非字典结果") [("slug", .str slug)])
      | .error e => .error (report slug e)⟩

/-- A registry as something that completes the data of its slugs. -/
def enricher (r : Registry) : Enricher := ⟨fun slug => .ok (r.isDynamic slug), r.enrich⟩

end Registry

end Pagewright.Enrichment
