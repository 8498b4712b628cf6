import AdbControl.Framework.OrderBy
import AdbControl.Framework.Run
import AdbControl.Observability.Event

namespace AdbControl.Observability

open Framework

def maxEvents : Nat := 20000

/-- The column `created_at` -/
def Event.created (event : Event) : List Char := event.createdAt.rfc3339Nano

structure Query where
  type : String := ""
  level : String := ""
  module : String := ""
  action : String := ""
  traceID : String := ""
  errorCode : String := ""
  deviceID : String := ""
  text : String := ""
  limit : Int := 0

namespace Repository

variable (O : OrderBy Event.created)

/-- `Save`: an id that is in the table already is refused. -/
def save (now : UtcTime) (table : List Event) (event : Event) : Option (List Event) :=
  if table.any (fun row => row.id == event.id) then none
  else
    let event := { event with
      createdAt := if event.createdAt = zeroTime then now else event.createdAt }
    let rows := event :: table
    let surplus := ((O.list rows).drop maxEvents).map Event.id
    some (rows.filter fun row => decide (row.id ∉ surplus))

/-- A clause of the query: a blank value asks for nothing. -/
def addEqual (column value : String) : Bool :=
  isBlank value || column == String.ofList (trim value.toList)

/-- The rows that a query asks for; `like` is SQLite's operator on the three columns of text. -/
def selects (like : Event → String → Bool) (query : Query) (row : Event) : Bool :=
  addEqual row.type query.type && addEqual row.level query.level &&
    addEqual row.module query.module && addEqual row.action query.action &&
    addEqual row.traceID query.traceID && addEqual row.errorCode query.errorCode &&
    addEqual row.deviceID query.deviceID &&
    (isBlank query.text || like row (String.ofList (trim query.text.toList)))

def listLimit (query : Query) : Nat :=
  if query.limit ≤ 0 ∨ query.limit > 500 then 200 else query.limit.toNat

def list (like : Event → String → Bool) (query : Query) (table : List Event) : List Event :=
  (O.list (table.filter (selects like query))).take (listLimit query)

/-- A call of `Save` at its time. -/
abbrev SaveCall := UtcTime × Event

/-- What a call leaves of the table; one that fails changes nothing. -/
def step (table : List Event) (call : SaveCall) : List Event :=
  (save O call.1 table call.2).getD table

/-- The event that a call has saved. -/
def saved (table : List Event) (call : SaveCall) : List Event :=
  if table.any (fun row => row.id == call.2.id) then []
  else [{ call.2 with
    createdAt := if call.2.createdAt = zeroTime then call.1 else call.2.createdAt }]

variable {O} {table : List Event}

/-- The rows that are not deleted are the first of the order. -/
theorem filter_perm_take {rows : List Event} (distinct : (rows.map Event.id).Nodup) :
    (rows.filter fun row => decide (row.id ∉ ((O.list rows).drop maxEvents).map Event.id)).Perm
      ((O.list rows).take maxEvents) := by
  have whole := List.take_append_drop maxEvents (O.list rows)
  have perm := O.perm rows
  have apart := (perm.map Event.id).nodup_iff.mpr distinct
  rw [← whole] at perm apart
  generalize (O.list rows).take maxEvents = kept at *
  generalize (O.list rows).drop maxEvents = surplus at *
  rw [List.map_append, List.nodup_append] at apart
  refine (perm.symm.filter _).trans ?_
  have stay : (kept.filter fun row => decide (row.id ∉ surplus.map Event.id)) = kept := by
    rw [List.filter_eq_self]
    intro row hrow
    have := apart.2.2 row.id (List.mem_map_of_mem hrow)
    rw [decide_eq_true_eq]
    exact fun hid => this _ hid rfl
  have go : (surplus.filter fun row => decide (row.id ∉ surplus.map Event.id)) = [] := by
    rw [List.filter_eq_nil_iff]
    intro row hrow
    rw [decide_eq_true_eq, not_not]
    exact List.mem_map_of_mem hrow
  rw [List.filter_append, stay, go, List.append_nil]

/-- The table holds the newest events, by their text, of all that were saved. -/
structure KeepsNewest (table history : List Event) : Prop where
  distinct : (table.map Event.id).Nodup
  keeps : KeepsGreatest Event.created maxEvents table history.reverse

theorem keepsNewest_step {history : List Event} (h : KeepsNewest table history) (call : SaveCall) :
    KeepsNewest (step O table call) (history ++ saved table call) := by
  obtain ⟨now, event⟩ := call
  unfold step save saved
  by_cases hold : table.any (fun row => row.id == event.id) = true
  · rw [if_pos hold, if_pos hold, List.append_nil]
    exact h
  rw [if_neg hold, if_neg hold]
  generalize hrow : { event with
    createdAt := if event.createdAt = zeroTime then now else event.createdAt } = row
  have hid : row.id = event.id := by rw [← hrow]
  have distinct : ((row :: table).map Event.id).Nodup := by
    rw [List.map_cons, List.nodup_cons]
    refine ⟨?_, h.distinct⟩
    intro hmem
    obtain ⟨other, hother, hsame⟩ := List.mem_map.mp hmem
    exact hold (List.any_eq_true.mpr ⟨other, hother, by simp [hsame, hid]⟩)
  have first := @filter_perm_take O _ distinct
  refine ⟨?_, ?_⟩
  · exact ((List.filter_sublist.map Event.id).nodup distinct)
  · rw [List.reverse_append, List.reverse_singleton, List.singleton_append]
    exact (O.take_keeps_cons h.keeps row).perm first.symm

end Repository

end AdbControl.Observability
