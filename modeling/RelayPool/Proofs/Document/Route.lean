import RelayPool.Document.Basic

/-!
# Routes into documents

A route leads to a value inside a document, by the names of settings and the
places of items.
-/

namespace RelayPool

/-- A step into a collection. -/
inductive RouteStep
  | key (name : String)
  | item (place : Nat)
  deriving DecidableEq, Repr

namespace Document

def step? : RouteStep → Document → Option Document
  | .key name, .map entries => lookup? name entries
  | .item place, .list items => items[place]?
  | _, _ => none

/-- The value at the end of a route. -/
def at? : List RouteStep → Document → Option Document
  | [], document => some document
  | step :: rest, document => (document.step? step).bind (at? rest)

theorem at?_key {name : String} {rest : List RouteStep} {document value : Document}
    (found : document.at? (.key name :: rest) = some value) :
    ∃ entries inner, document = .map entries ∧ lookup? name entries = some inner ∧
      inner.at? rest = some value := by
  obtain ⟨inner, stepped, onward⟩ := Option.bind_eq_some_iff.mp found
  cases document with
  | map entries => exact ⟨entries, inner, rfl, stepped, onward⟩
  | _ => cases stepped

theorem at?_item {place : Nat} {rest : List RouteStep} {document value : Document}
    (found : document.at? (.item place :: rest) = some value) :
    ∃ items inner, document = .list items ∧ items[place]? = some inner ∧
      inner.at? rest = some value := by
  obtain ⟨inner, stepped, onward⟩ := Option.bind_eq_some_iff.mp found
  cases document with
  | list items => exact ⟨items, inner, rfl, stepped, onward⟩
  | _ => cases stepped

end Document

end RelayPool
