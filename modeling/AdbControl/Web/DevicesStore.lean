import AdbControl.Framework.Run

namespace AdbControl.Web

open Framework

inductive Status
  | idle
  | loading
  | ready
  | error
  deriving DecidableEq, Repr

/-- A call of `refresh`, and what its request has come to. An error is what `toAppError` makes of
it. -/
structure Refresh (δ ε : Type) where
  background : Bool
  result : Option (Except ε (List δ))

/-- The store, and the calls of `refresh` in the order in which they have started. -/
structure DevicesStore (δ ε : Type) where
  devices : List δ
  status : Status
  error : Option ε
  lastUpdated : Option Nat
  refreshes : List (Refresh δ ε)

inductive StoreAct (δ ε : Type)
  | refresh (background : Bool)
  | settle (k : Nat) (result : Except ε (List δ)) (now : Nat)

/-- What the pages show of a store. -/
inductive Shown (δ ε : Type)
  | loading
  | error (e : Option ε)
  | devices (devices : List δ)

/-- How a call of `refresh` has settled. -/
structure Settlement (δ ε : Type) where
  background : Bool
  result : Except ε (List δ)

variable {δ ε : Type}

namespace DevicesStore

def initial : DevicesStore δ ε := ⟨[], .idle, none, none, []⟩

/-- `refresh` up to its request -/
def begin (s : DevicesStore δ ε) (background : Bool) : DevicesStore δ ε :=
  let background := background && s.status == .ready
  { s with
    status := if background then s.status else .loading
    error := none
    refreshes := s.refreshes ++ [⟨background, none⟩] }

/-- `refresh` from the answer to its request on -/
def settle (s : DevicesStore δ ε) (background : Bool) (result : Except ε (List δ)) (now : Nat) :
    DevicesStore δ ε :=
  match result with
  | .ok devices => { s with devices, status := .ready, lastUpdated := some now }
  | .error e =>
    let s := { s with error := some e }
    if background then s else { s with devices := [], status := .error }

def step (s : DevicesStore δ ε) : StoreAct δ ε → DevicesStore δ ε
  | .refresh background => s.begin background
  | .settle k result now =>
    match s.refreshes[k]? with
    | some ⟨background, none⟩ =>
      { s.settle background result now with
        refreshes := s.refreshes.set k ⟨background, some result⟩ }
    | _ => s

/-- What settles with a step -/
def settled (s : DevicesStore δ ε) : StoreAct δ ε → List (Settlement δ ε)
  | .refresh _ => []
  | .settle k result _ =>
    match s.refreshes[k]? with
    | some ⟨background, none⟩ => [⟨background, result⟩]
    | _ => []

def shown (s : DevicesStore δ ε) : Shown δ ε :=
  match s.status with
  | .loading => .loading
  | .error => .error s.error
  | .idle | .ready => .devices s.devices

end DevicesStore

/-- The devices that a refresh has returned -/
def Refresh.returned (refresh : Refresh δ ε) : Option (List δ) :=
  match refresh.result with
  | some (.ok devices) => some devices
  | _ => none

theorem Refresh.result_of_returned {refresh : Refresh δ ε} {devices : List δ}
    (h : refresh.returned = some devices) : refresh.result = some (.ok devices) := by
  unfold returned at h
  split at h
  · next hresult =>
    rw [hresult, Option.some.inj h]
  · cases h

/-- What the latest-started refresh that succeeded has returned -/
def latest (refreshes : List (Refresh δ ε)) : Option (List δ) :=
  (refreshes.filterMap Refresh.returned).getLast?

/-- A refresh has failed with the error, and none that has started later has succeeded. -/
def Stands (refreshes : List (Refresh δ ε)) (e : ε) : Prop :=
  ∃ before failed after, refreshes = before ++ failed :: after ∧ failed.result = some (.error e) ∧
    ∀ refresh ∈ after, refresh.returned = none

/-- The devices that are shown are those of the latest-started refresh that succeeded, and an error is
one after which no refresh has started that succeeded. -/
def DevicesStore.LatestWins (s : DevicesStore δ ε) : Prop :=
  match s.shown with
  | .loading => False
  | .error e => ∃ shown, e = some shown ∧ Stands s.refreshes shown
  | .devices devices => ∀ newest ∈ latest s.refreshes, devices = newest

def DevicesStore.AllSettled (s : DevicesStore δ ε) : Prop :=
  ∀ refresh ∈ s.refreshes, refresh.result ≠ none

/-- A success and a failure in the foreground write the devices. -/
def Settlement.writes (settlement : Settlement δ ε) : Bool :=
  match settlement.result with
  | .ok _ => true
  | .error _ => !settlement.background

def Settlement.failure (settlement : Settlement δ ε) : Option ε :=
  match settlement.result with
  | .ok _ => none
  | .error e => some e

/-- Of the refreshes that write, the last to settle has returned what the latest-started one that
succeeded has; or it has failed, and of all that failed the last to settle has started after every
one that succeeded. -/
def Orderly (refreshes : List (Refresh δ ε)) (history : List (Settlement δ ε)) : Prop :=
  match (history.filter Settlement.writes).getLast?.map Settlement.result with
  | none => True
  | some (.ok devices) => ∀ newest ∈ latest refreshes, devices = newest
  | some (.error _) => ∀ e ∈ (history.filterMap Settlement.failure).getLast?, Stands refreshes e

namespace DevicesStore

/-- What the store holds after these calls have settled. -/
structure Reflects (s : DevicesStore δ ε) (history : List (Settlement δ ε)) : Prop where
  written : match (history.filter Settlement.writes).getLast?.map Settlement.result with
    | none => s.status = .idle ∨ s.status = .loading
    | some (.ok devices) => s.devices = devices ∧ (s.status = .ready ∨ s.status = .loading)
    | some (.error _) => s.status = .error ∨ s.status = .loading
  error : ∀ e ∈ s.error, (history.filterMap Settlement.failure).getLast? = some e
  failed : s.status = .error → ∃ e, s.error = some e
  loading : s.status = .loading → ∃ refresh ∈ s.refreshes,
    refresh.background = false ∧ refresh.result = none
  known : ∀ refresh ∈ s.refreshes, ∀ result, refresh.result = some result →
    ⟨refresh.background, result⟩ ∈ history

variable {s : DevicesStore δ ε} {history : List (Settlement δ ε)}

theorem reflects_initial : (initial : DevicesStore δ ε).Reflects [] :=
  ⟨Or.inl rfl, nofun, nofun, nofun, nofun⟩

/-- A refresh starts in the background where the store is ready, or else in the foreground. -/
theorem begin_cases (s : DevicesStore δ ε) (background : Bool) :
    (s.status = .ready ∧ s.begin background =
      { s with error := none, refreshes := s.refreshes ++ [⟨true, none⟩] }) ∨
    s.begin background =
      { s with
        status := .loading
        error := none
        refreshes := s.refreshes ++ [⟨false, none⟩] } := by
  unfold DevicesStore.begin
  cases hbackground : background && s.status == .ready with
  | true =>
    rw [Bool.and_eq_true, beq_iff_eq] at hbackground
    exact Or.inl ⟨hbackground.2, rfl⟩
  | false => exact Or.inr rfl

theorem Reflects.begin (h : s.Reflects history) (background : Bool) :
    (s.begin background).Reflects history := by
  have known (background : Bool) : ∀ refresh ∈ s.refreshes ++ [⟨background, none⟩], ∀ result,
      refresh.result = some result → ⟨refresh.background, result⟩ ∈ history := by
    intro refresh hrefresh result hresult
    rcases List.mem_append.mp hrefresh with hold | hnew
    · exact h.known refresh hold result hresult
    · rw [List.mem_singleton.mp hnew] at hresult
      cases hresult
  have hwritten := h.written
  rcases s.begin_cases background with ⟨hready, he⟩ | he
  · rw [he]
    refine ⟨hwritten, nofun, ?_, ?_, known true⟩
    · intro herror
      change s.status = .error at herror
      rw [hready] at herror
      cases herror
    · intro hloading
      change s.status = .loading at hloading
      rw [hready] at hloading
      cases hloading
  · rw [he]
    refine ⟨?_, nofun, nofun, ?_, known false⟩
    · split at hwritten
      · exact Or.inr rfl
      · exact ⟨hwritten.1, Or.inr rfl⟩
      · exact Or.inr rfl
    · intro _
      exact ⟨⟨false, none⟩, by simp, rfl, rfl⟩

/-- What is written last, once another refresh has settled. -/
theorem written_snoc (history : List (Settlement δ ε)) (settlement : Settlement δ ε) :
    ((history ++ [settlement]).filter Settlement.writes).getLast?.map Settlement.result =
      if settlement.writes then some settlement.result
      else (history.filter Settlement.writes).getLast?.map Settlement.result := by
  rw [List.filter_append, List.filter_singleton]
  cases settlement.writes with
  | true => simp
  | false => simp

theorem failed_snoc (history : List (Settlement δ ε)) (settlement : Settlement δ ε) :
    ((history ++ [settlement]).filterMap Settlement.failure).getLast? =
      settlement.failure.or (history.filterMap Settlement.failure).getLast? := by
  rw [List.filterMap_append]
  cases hfailure : settlement.failure with
  | none => simp [hfailure]
  | some e => simp [hfailure]

theorem Reflects.known_settled (h : s.Reflects history) (k : Nat) (background : Bool)
    (result : Except ε (List δ)) : ∀ refresh ∈ s.refreshes.set k ⟨background, some result⟩,
      ∀ result', refresh.result = some result' →
        ⟨refresh.background, result'⟩ ∈ history ++ [⟨background, result⟩] := by
  intro refresh hrefresh result' hresult
  rcases List.mem_or_eq_of_mem_set hrefresh with hold | hnew
  · exact List.mem_append_left _ (h.known refresh hold result' hresult)
  · subst hnew
    obtain rfl := Option.some.inj hresult
    simp

/-- A refresh in the foreground stays one when one in the background settles. -/
theorem Reflects.pending_foreground (h : s.Reflects history) {k : Nat}
    (hk : s.refreshes[k]? = some ⟨true, none⟩) (settled : Refresh δ ε)
    (hloading : s.status = .loading) : ∃ refresh ∈ s.refreshes.set k settled,
      refresh.background = false ∧ refresh.result = none := by
  obtain ⟨refresh, hrefresh, hforeground, hpending⟩ := h.loading hloading
  obtain ⟨j, hj⟩ := List.mem_iff_getElem?.mp hrefresh
  have hne : j ≠ k := by
    intro hjk
    rw [hjk, hk] at hj
    rw [← Option.some.inj hj] at hforeground
    cases hforeground
  refine ⟨refresh, List.mem_iff_getElem?.mpr ⟨j, ?_⟩, hforeground, hpending⟩
  rw [List.getElem?_set_ne hne.symm, hj]

theorem Reflects.settle (h : s.Reflects history) {k : Nat} {background : Bool}
    (hk : s.refreshes[k]? = some ⟨background, none⟩) (result : Except ε (List δ)) (now : Nat) :
    Reflects { s.settle background result now with
      refreshes := s.refreshes.set k ⟨background, some result⟩ }
      (history ++ [⟨background, result⟩]) := by
  have known := h.known_settled k background result
  cases result with
  | ok devices =>
    refine ⟨?_, ?_, nofun, nofun, known⟩
    · rw [written_snoc]
      exact ⟨rfl, Or.inl rfl⟩
    · intro e he
      rw [failed_snoc]
      exact h.error e he
  | error e =>
    cases background with
    | false =>
      refine ⟨?_, ?_, ?_, nofun, known⟩
      · rw [written_snoc]
        exact Or.inl rfl
      · intro e' he'
        rw [failed_snoc]
        exact he'
      · intro _
        exact ⟨e, rfl⟩
    | true =>
      refine ⟨?_, ?_, ?_, h.pending_foreground hk _, known⟩
      · rw [written_snoc]
        exact h.written
      · intro e' he'
        rw [failed_snoc]
        exact he'
      · intro _
        exact ⟨e, rfl⟩

theorem reflects_step (h : s.Reflects history) (act : StoreAct δ ε) :
    (s.step act).Reflects (history ++ s.settled act) := by
  cases act with
  | refresh background =>
    rw [settled, List.append_nil]
    exact h.begin background
  | settle k result now =>
    simp only [step, settled]
    split
    · next background hk => exact h.settle hk result now
    · rw [List.append_nil]
      exact h

/-- Once all refreshes have settled, the latest one wins exactly when they have settled in order. -/
theorem Reflects.latestWins_iff (h : s.Reflects history) (hall : s.AllSettled) :
    s.LatestWins ↔ Orderly s.refreshes history := by
  have busy : s.status ≠ .loading := by
    intro hloading
    obtain ⟨refresh, hrefresh, -, hpending⟩ := h.loading hloading
    exact hall refresh hrefresh hpending
  have hwritten := h.written
  unfold LatestWins Orderly shown
  cases hlast : (history.filter Settlement.writes).getLast?.map Settlement.result with
  | none =>
    rw [hlast] at hwritten
    rw [hwritten.resolve_right busy]
    refine iff_of_true ?_ trivial
    intro newest hnewest
    obtain ⟨refresh, hrefresh, hreturned⟩ :=
      List.mem_filterMap.mp (List.mem_of_getLast? hnewest)
    have hresult := Refresh.result_of_returned hreturned
    have hmem : (⟨refresh.background, .ok newest⟩ : Settlement δ ε) ∈
        history.filter Settlement.writes :=
      List.mem_filter.mpr ⟨h.known refresh hrefresh _ hresult, rfl⟩
    rw [Option.map_eq_none_iff, List.getLast?_eq_none_iff] at hlast
    rw [hlast] at hmem
    cases hmem
  | some result =>
    rw [hlast] at hwritten
    cases result with
    | ok devices =>
      obtain ⟨hdevices, hstatus⟩ := hwritten
      rw [hstatus.resolve_right busy, hdevices]
    | error e =>
      have hstatus := hwritten.resolve_right busy
      obtain ⟨shown, hshown⟩ := h.failed hstatus
      rw [hstatus, hshown, h.error shown hshown]
      simp

/-- In every run of refreshes, once all have settled, what is shown is that of the latest one exactly
when they have settled in order. -/
theorem latest_wins_iff (acts : List (StoreAct δ ε))
    (h : (run step initial acts).AllSettled) :
    (run step initial acts).LatestWins ↔
      Orderly (run step initial acts).refreshes (eventsOf step settled initial acts) := by
  have reflects := run_history Reflects (fun s history act h => @reflects_step δ ε s history h act)
    acts reflects_initial
  rw [List.nil_append] at reflects
  exact reflects.latestWins_iff h

/-- Two refreshes that overlap settle in their order. -/
theorem latest_wins_iff_overlapping :
    (run step initial ([.refresh false, .refresh false, .settle 0 (.error "lost") 0,
      .settle 1 (.ok [2]) 1] : List (StoreAct Nat String))).LatestWins := by
  refine (latest_wins_iff _ ?_).mpr ?_
  · intro refresh hrefresh
    simp [step, begin, settle, initial] at hrefresh
    rcases hrefresh with rfl | rfl <;> exact nofun
  · intro newest hnewest
    exact Option.some.inj hnewest

/-- Where the second settles first, the devices that the first has returned are shown in place of
those of the second. -/
theorem stale_devices_shown : ¬∀ acts : List (StoreAct Nat String),
    (run step initial acts).AllSettled → (run step initial acts).LatestWins := by
  intro h
  have wins := h [.refresh false, .refresh false, .settle 1 (.ok [2]) 0, .settle 0 (.ok [1]) 1] (by
    intro refresh hrefresh
    simp [step, begin, settle, initial] at hrefresh
    rcases hrefresh with rfl | rfl <;> exact nofun)
  have same : [1] = [2] := wins [2] rfl
  cases same

end DevicesStore

end AdbControl.Web
