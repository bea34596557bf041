import SearchQuery.Response.Basic

/-!
# Rows of aggregates

The facets of a response are turned into one row per group. Facets with terms contribute an entry
per term, and the rows come in the order in which their terms are first seen; under a constant key
there is one row that holds every facet.
-/

namespace SearchQuery

/-- A value that a facet reports. -/
inductive Statistic where
  | count
  | total
  | min
  | max
  | mean
  deriving DecidableEq

namespace Statistic

def key : Statistic → String
  | .count => "count"
  | .total => "total"
  | .min => "min"
  | .max => "max"
  | .mean => "mean"

def all : List Statistic := [.count, .total, .min, .max, .mean]

def ofKey? (key : String) : Option Statistic := all.find? (·.key == key)

/-- The value of a group that a facet does not mention. -/
def absent : Statistic → Json
  | .count => .int 0
  | _ => .null

end Statistic

/-- A group: its key and, by facet, the entries that mention it. -/
structure AggregateRow where
  key : Json
  entries : List (String × Json)
  deriving DecidableEq

namespace AggregateRow

/-- Read a statistic that a facet reports for the group. -/
def statistic (row : AggregateRow) (facet : String) (s : Statistic) : Json :=
  (((row.entries.lookup facet).bind (·.member? s.key))).getD s.absent

/-- Record the entry of a facet for a term, in the row of that term or in a new one. -/
def addEntry (facet : String) (term entry : Json) : List AggregateRow → List AggregateRow
  | [] => [⟨term, [(facet, entry)]⟩]
  | row :: rest =>
    if row.key.same term then ⟨row.key, Json.insertMember facet entry row.entries⟩ :: rest
    else row :: addEntry facet term entry rest

/-- The terms of a facet with their entries. -/
def termEntries (facet : String × Json) : List (String × Json × Json) :=
  (((facet.2.member? "terms").bind Json.items?).getD []).filterMap fun entry =>
    (entry.member? "term").map fun term => (facet.1, term, entry)

/-- One row per distinct term. -/
def fromTerms (facets : List (String × Json)) : List AggregateRow :=
  (facets.flatMap termEntries).foldl (fun rows e => addEntry e.1 e.2.1 e.2.2 rows) []

/-- The one row of a constant key. -/
def fromConstant (key : Json) (facets : List (String × Json)) : AggregateRow :=
  ⟨key, Json.collectMembers (facets.filter fun facet => facet.2.members?.isSome)⟩

end AggregateRow

end SearchQuery
