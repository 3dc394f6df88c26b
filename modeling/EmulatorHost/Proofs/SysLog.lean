import EmulatorHost.Agent.Subscription
import Mathlib.Data.List.Induction

/-!
# Listeners of the console log

Any number of listeners hear the log, each at its own speed. What one of them gets is decided by
its own part of a run alone: the lines that are published, the lines it takes, and its leaving
(`Event.share`). So a listener is followed by itself (`Listener.through`), and the log is shown to
treat each of its listeners like that (`Holds`). The main statement is `hears_by_itself`.
-/

namespace EmulatorHost.SysLog

/-! ## Runs of the log -/

inductive Event where
  | listen
  | publish (line : String)
  | receive (id : ListenerId) (count : Nat)
  | drop (id : ListenerId)
deriving DecidableEq

/-- The log after one event. -/
def step (log : SysLog) : Event → SysLog
  | .listen => log.listen.2
  | .publish line => log.publish line
  | .receive id count => (log.receive id count).2
  | .drop id => log.drop id

def after (events : List Event) : SysLog :=
  events.foldl step empty

def held (log : SysLog) : List ListenerId :=
  log.listeners.map Prod.fst

/-- What is seen at the events of a run, one after another. -/
def watch {σ ε α : Type} (move : σ → ε → σ) (view : σ → ε → List α) : σ → List ε → List α
  | _, [] => []
  | state, event :: later => view state event ++ watch move view (move state event) later

def given (id : ListenerId) (log : SysLog) : Event → List String
  | .receive other count => if other = id then (log.receive id count).1 else []
  | _ => []

/-- The line that an event publishes, with the length of a listener's queue at that time. -/
def offered (id : ListenerId) (log : SysLog) : Event → List (String × Nat)
  | .publish line => [(line, (log.queue id).length)]
  | _ => []

def received (id : ListenerId) : SysLog → List Event → List String :=
  watch step (given id)

def offers (id : ListenerId) : SysLog → List Event → List (String × Nat) :=
  watch step (offered id)

def Event.line? : Event → Option String
  | publish line => some line
  | _ => none

theorem watch_append {σ ε α : Type} (move : σ → ε → σ) (view : σ → ε → List α) (state : σ)
    (events later : List ε) :
    watch move view state (events ++ later) =
      watch move view state events ++ watch move view (events.foldl move state) later := by
  induction events generalizing state with
  | nil =>
      rfl
  | cons event rest ih =>
      rw [List.cons_append, watch, watch, ih, List.append_assoc]
      rfl

theorem after_concat (events : List Event) (event : Event) :
    after (events ++ [event]) = (after events).step event := by
  rw [after, List.foldl_append]
  rfl

/-! ## A listener by itself -/

inductive Turn where
  | hears (line : String)
  | takes (count : Nat)
  | leaves
deriving DecidableEq

def Event.share (id : ListenerId) : Event → Option Turn
  | listen => none
  | publish line => some (.hears line)
  | receive other count => if other = id then some (.takes count) else none
  | drop other => if other = id then some .leaves else none

namespace Listener

def fresh : Listener :=
  ⟨[], true⟩

def through (listener : Listener) : Turn → Listener
  | .hears line => if listener.isOpen then listener.offer line else listener
  | .takes count => { listener with queue := listener.queue.drop count }
  | .leaves => ⟨[], false⟩

def given (listener : Listener) : Turn → List String
  | .takes count => listener.queue.take count
  | _ => []

/-- The line that the listener hears, with the length of its queue at that time. -/
def offered (listener : Listener) : Turn → List (String × Nat)
  | .hears line => [(line, listener.queue.length)]
  | _ => []

/-- The listener after its turns. -/
def after (listener : Listener) (turns : List Turn) : Listener :=
  turns.foldl through listener

/-- A listener's queue is never longer than it may be. -/
def Fits (listener : Listener) : Prop :=
  listener.queue.length ≤ capacity

theorem fits_through {listener : Listener} (hfits : listener.Fits) (turn : Turn) :
    (listener.through turn).Fits := by
  unfold Fits at hfits ⊢
  cases turn with
  | hears line =>
      simp only [Listener.through, offer]
      split_ifs with hopen hroom
      · rw [List.length_append]
        exact hroom
      · exact hfits
      · exact hfits
  | takes count =>
      calc (listener.queue.drop count).length
          = listener.queue.length - count := List.length_drop
        _ ≤ listener.queue.length := Nat.sub_le _ _
        _ ≤ capacity := hfits
  | leaves =>
      exact Nat.zero_le capacity

theorem fits_after {listener : Listener} (hfits : listener.Fits) (turns : List Turn) :
    (listener.after turns).Fits := by
  induction turns generalizing listener with
  | nil =>
      exact hfits
  | cons turn later ih =>
      exact ih (fits_through hfits turn)

/-- The lines that a listener still has room for when it hears them. -/
def kept (offers : List (String × Nat)) : List String :=
  (offers.filter fun offer => offer.2 ≠ capacity).map Prod.fst

/-- While a listener stays, it loses no line but those that it has no room for. -/
theorem given_append_through {listener : Listener} (hfits : listener.Fits)
    (hopen : listener.isOpen = true) {turn : Turn} (hstays : turn ≠ .leaves) :
    listener.given turn ++ (listener.through turn).queue =
      listener.queue ++ kept (listener.offered turn) := by
  cases turn with
  | hears line =>
      by_cases hroom : listener.queue.length < capacity
      · have hnot : listener.queue.length ≠ capacity := Nat.ne_of_lt hroom
        simp [given, Listener.through, offer, kept, offered, hopen, hroom, hnot]
      · have hfull : listener.queue.length = capacity :=
          Nat.le_antisymm hfits (Nat.le_of_not_lt hroom)
        simp [given, Listener.through, offer, kept, offered, hopen, hfull]
  | takes count =>
      simp [given, Listener.through, kept, offered]
  | leaves =>
      exact absurd rfl hstays

theorem isOpen_through {listener : Listener} {turn : Turn} (hstays : turn ≠ .leaves) :
    (listener.through turn).isOpen = listener.isOpen := by
  cases turn with
  | hears line =>
      simp only [Listener.through, offer]
      split_ifs <;> rfl
  | takes count =>
      rfl
  | leaves =>
      exact absurd rfl hstays

theorem given_append_after {listener : Listener} (hfits : listener.Fits)
    (hopen : listener.isOpen = true) {turns : List Turn} (hstays : .leaves ∉ turns) :
    watch through given listener turns ++ (listener.after turns).queue =
      listener.queue ++ kept (watch through offered listener turns) := by
  induction turns generalizing listener with
  | nil =>
      exact (List.append_nil _).symm
  | cons turn later ih =>
      rw [List.mem_cons, not_or] at hstays
      have hturn : turn ≠ .leaves := Ne.symm hstays.1
      have hopen' : (listener.through turn).isOpen = true := (isOpen_through hturn).trans hopen
      have hlater := ih (fits_through hfits turn) hopen' hstays.2
      have hkept (first rest : List (String × Nat)) :
          kept (first ++ rest) = kept first ++ kept rest := by
        rw [kept, List.filter_append, List.map_append]
        rfl
      calc watch Listener.through given listener (turn :: later) ++
            (listener.after (turn :: later)).queue
          = listener.given turn ++ (watch Listener.through given (listener.through turn) later ++
              ((listener.through turn).after later).queue) := List.append_assoc _ _ _
        _ = listener.given turn ++ (listener.through turn).queue ++
              kept (watch Listener.through offered (listener.through turn) later) := by
            rw [hlater, List.append_assoc]
        _ = listener.queue ++ kept (watch Listener.through offered listener (turn :: later)) := by
            rw [given_append_through hfits hopen hturn, watch, hkept, List.append_assoc]

/-- Whatever a listener does, it gets nothing that it has not heard. -/
theorem given_append_sublist (listener : Listener) (turn : Turn) :
    (listener.given turn ++ (listener.through turn).queue).Sublist
      (listener.queue ++ (listener.offered turn).map Prod.fst) := by
  cases turn with
  | hears line =>
      simp only [through, offer]
      split_ifs
      · exact List.Sublist.refl _
      · exact List.sublist_append_left _ _
      · exact List.sublist_append_left _ _
  | takes count =>
      rw [given, through, List.take_append_drop]
      exact List.sublist_append_left _ _
  | leaves =>
      exact List.nil_sublist _

theorem watch_append_sublist (listener : Listener) (turns : List Turn) :
    (watch through given listener turns ++ (listener.after turns).queue).Sublist
      (listener.queue ++ (watch through offered listener turns).map Prod.fst) := by
  induction turns generalizing listener with
  | nil =>
      exact List.sublist_append_left _ _
  | cons turn later ih =>
      have hlater := (List.Sublist.refl (listener.given turn)).append (ih (listener.through turn))
      have hturn := (given_append_sublist listener turn).append_right
        ((watch through offered (listener.through turn) later).map Prod.fst)
      simp only [watch, List.map_append, List.append_assoc] at hlater hturn ⊢
      exact hlater.trans hturn

/-- Nothing comes to a listener that has left. -/
theorem of_gone (turns : List Turn) :
    after ⟨[], false⟩ turns = ⟨[], false⟩ ∧ watch through given ⟨[], false⟩ turns = [] := by
  induction turns with
  | nil =>
      exact ⟨rfl, rfl⟩
  | cons turn later ih =>
      have hgone : through ⟨[], false⟩ turn = ⟨[], false⟩ := by
        cases turn with
        | hears line | leaves =>
            rfl
        | takes count =>
            simp [through]
      have hnothing : given ⟨[], false⟩ turn = [] := by
        cases turn with
        | hears line | leaves =>
            rfl
        | takes count =>
            exact List.take_nil
      rw [after, List.foldl_cons, watch, hgone, hnothing]
      exact ih

theorem of_leaves (listener : Listener) (first later : List Turn) :
    listener.after (first ++ .leaves :: later) = ⟨[], false⟩ ∧
      watch through given listener (first ++ .leaves :: later) =
        watch through given listener first := by
  rcases of_gone later with ⟨hgone, hnothing⟩
  constructor
  · rw [after, List.foldl_append]
    exact hgone
  · rw [watch_append, watch]
    change _ ++ ([] ++ watch through given ⟨[], false⟩ later) = _
    rw [hnothing, List.append_nil, List.append_nil]

theorem isOpen_after {listener : Listener} {turns : List Turn} :
    (listener.after turns).isOpen = true ↔ listener.isOpen = true ∧ .leaves ∉ turns := by
  induction turns generalizing listener with
  | nil =>
      simp [after]
  | cons turn later ih =>
      change ((listener.through turn).after later).isOpen = true ↔ _
      by_cases hleaves : turn = .leaves
      · subst hleaves
        change (after ⟨[], false⟩ later).isOpen = true ↔ _
        simp [of_gone]
      · have hothers : .leaves ∉ turn :: later ↔ .leaves ∉ later := by
          simp [Ne.symm hleaves]
        rw [ih, isOpen_through hleaves, hothers]

end Listener

/-! ## A listener of the log -/

theorem mem_modify {log : SysLog} {id other : ListenerId} {change : Listener → Listener}
    {entry : Listener} :
    (id, entry) ∈ (log.modify other change).listeners ↔
      ∃ before, (id, before) ∈ log.listeners ∧
        entry = if id = other then change before else before := by
  simp only [modify, List.mem_map, Prod.exists, Prod.mk.injEq, beq_iff_eq]
  constructor
  · rintro ⟨_, before, hbefore, rfl, rfl⟩
    exact ⟨before, hbefore, rfl⟩
  · rintro ⟨before, hbefore, rfl⟩
    exact ⟨id, before, hbefore, rfl, rfl⟩

theorem mem_listen {log : SysLog} {id : ListenerId} {entry : Listener} :
    (id, entry) ∈ log.listen.2.listeners ↔
      (id, entry) ∈ log.listeners ∨ id = log.made ∧ entry = .fresh := by
  simp [listen, Listener.fresh]

theorem mem_publish {log : SysLog} {line : String} {id : ListenerId} {entry : Listener} :
    (id, entry) ∈ (log.publish line).listeners ↔
      ∃ before, (id, before) ∈ log.listeners ∧ before.isOpen = true ∧
        entry = before.offer line := by
  simp only [publish, List.mem_map, List.mem_filter, Prod.exists, Prod.mk.injEq]
  constructor
  · rintro ⟨_, before, ⟨hbefore, hopen⟩, rfl, rfl⟩
    exact ⟨before, hbefore, hopen, rfl⟩
  · rintro ⟨before, hbefore, hopen, rfl⟩
    exact ⟨id, before, ⟨hbefore, hopen⟩, rfl, rfl⟩

/-- A listener has begun, and this is what the log holds of it: it is there as long as it stays, and
once it has left, nothing is waiting for it. -/
structure Holds (log : SysLog) (id : ListenerId) (listener : Listener) : Prop where
  begun : id < log.made
  only : ∀ other, (id, other) ∈ log.listeners → other = listener
  there : listener.isOpen = true → (id, listener) ∈ log.listeners
  gone : listener.isOpen = false → listener.queue = []

namespace Holds

variable {log : SysLog} {id : ListenerId} {listener : Listener}

theorem queue_eq (hholds : Holds log id listener) : log.queue id = listener.queue := by
  unfold queue
  cases hlookup : log.listeners.lookup id with
  | some other =>
      have hmem : (id, other) ∈ log.listeners := by
        rcases List.lookup_eq_some_iff.mp hlookup with ⟨before, later, hsplit, -⟩
        rw [hsplit]
        exact List.mem_append_right _ (List.mem_cons_self ..)
      exact congrArg Listener.queue (hholds.only other hmem)
  | none =>
      have hclosed : listener.isOpen = false := by
        apply Bool.eq_false_iff.mpr
        intro hopen
        have hnot := List.lookup_eq_none_iff.mp hlookup _ (hholds.there hopen)
        simp at hnot
      exact (hholds.gone hclosed).symm

theorem modify_other (hholds : Holds log id listener) {other : ListenerId} (hother : other ≠ id)
    (change : Listener → Listener) : Holds (log.modify other change) id listener where
  begun := hholds.begun
  only := by
    intro entry hentry
    rcases mem_modify.mp hentry with ⟨before, hbefore, rfl⟩
    rw [if_neg hother.symm]
    exact hholds.only before hbefore
  there := by
    intro hopen
    apply mem_modify.mpr
    exact ⟨listener, hholds.there hopen, (if_neg hother.symm).symm⟩
  gone := hholds.gone

theorem modify_self (hholds : Holds log id listener) (change : Listener → Listener)
    (hopens : (change listener).isOpen = true → listener.isOpen = true)
    (hgone : (change listener).isOpen = false → (change listener).queue = []) :
    Holds (log.modify id change) id (change listener) where
  begun := hholds.begun
  only := by
    intro entry hentry
    rcases mem_modify.mp hentry with ⟨before, hbefore, rfl⟩
    rw [if_pos rfl, hholds.only before hbefore]
  there := by
    intro hopen
    apply mem_modify.mpr
    exact ⟨listener, hholds.there (hopens hopen), (if_pos rfl).symm⟩
  gone := hgone

theorem listen (hholds : Holds log id listener) : Holds log.listen.2 id listener where
  begun := Nat.lt_succ_of_lt hholds.begun
  only := by
    intro entry hentry
    rcases mem_listen.mp hentry with hold | ⟨hnew, -⟩
    · exact hholds.only entry hold
    · exact absurd hnew (Nat.ne_of_lt hholds.begun)
  there := by
    intro hopen
    exact mem_listen.mpr (.inl (hholds.there hopen))
  gone := hholds.gone

theorem publish (hholds : Holds log id listener) (line : String) :
    Holds (log.publish line) id (listener.through (.hears line)) := by
  have hstays : (listener.through (.hears line)).isOpen = listener.isOpen :=
    Listener.isOpen_through (by intro h; cases h)
  refine ⟨hholds.begun, ?_, ?_, ?_⟩
  · intro entry hentry
    rcases mem_publish.mp hentry with ⟨before, hbefore, hopen, rfl⟩
    have hsame := hholds.only before hbefore
    subst hsame
    exact (if_pos hopen).symm
  · intro hopen
    rw [hstays] at hopen
    apply mem_publish.mpr
    exact ⟨listener, hholds.there hopen, hopen, if_pos hopen⟩
  · intro hclosed
    rw [hstays] at hclosed
    rw [Listener.through, if_neg (ne_true_of_eq_false hclosed)]
    exact hholds.gone hclosed

theorem receive (hholds : Holds log id listener) (count : Nat) :
    Holds (log.receive id count).2 id (listener.through (.takes count)) := by
  apply hholds.modify_self fun entry => { entry with queue := entry.queue.drop count }
  · intro hopen
    exact hopen
  · intro hclosed
    change listener.queue.drop count = []
    rw [hholds.gone hclosed, List.drop_nil]

theorem drop (hholds : Holds log id listener) :
    Holds (log.drop id) id (listener.through .leaves) := by
  apply hholds.modify_self fun _ => ⟨[], false⟩
  · intro hopen
    cases hopen
  · intro _
    rfl

/-- What an event does to a listener of the log is what the listener's own part of it does. -/
theorem step (hholds : Holds log id listener) (event : Event) :
    match event.share id with
    | some turn =>
      Holds (log.step event) id (listener.through turn) ∧
        SysLog.given id log event = listener.given turn ∧
        SysLog.offered id log event = listener.offered turn
    | none =>
      Holds (log.step event) id listener ∧ SysLog.given id log event = [] ∧
        SysLog.offered id log event = [] := by
  cases event with
  | listen =>
      exact ⟨hholds.listen, rfl, rfl⟩
  | publish line =>
      refine ⟨hholds.publish line, rfl, ?_⟩
      rw [SysLog.offered, hholds.queue_eq]
      rfl
  | receive other count =>
      by_cases hself : other = id
      · subst hself
        simp only [Event.share, if_true]
        refine ⟨hholds.receive count, ?_, rfl⟩
        rw [SysLog.given, if_pos rfl, SysLog.receive, hholds.queue_eq]
        rfl
      · simp only [Event.share, if_neg hself]
        have hkept := hholds.modify_other hself fun entry =>
          { entry with queue := entry.queue.drop count }
        exact ⟨hkept, if_neg hself, rfl⟩
  | drop other =>
      by_cases hself : other = id
      · subst hself
        simp only [Event.share, if_true]
        exact ⟨hholds.drop, rfl, rfl⟩
      · simp only [Event.share, if_neg hself]
        have hkept := hholds.modify_other hself fun _ => ⟨[], false⟩
        exact ⟨hkept, rfl, rfl⟩

/-- What a run does to a listener of the log is what the listener's own part of the run does. -/
theorem run (hholds : Holds log id listener) (events : List Event) :
    let turns := events.filterMap (Event.share id)
    Holds (events.foldl SysLog.step log) id (listener.after turns) ∧
      received id log events = watch Listener.through Listener.given listener turns ∧
      offers id log events = watch Listener.through Listener.offered listener turns := by
  induction events generalizing log listener with
  | nil =>
      exact ⟨hholds, rfl, rfl⟩
  | cons event later ih =>
      have hstep := hholds.step event
      rw [List.filterMap_cons]
      cases hshare : event.share id with
      | none =>
          rw [hshare] at hstep
          rcases hstep with ⟨hnext, hgiven, hoffered⟩
          rw [received, offers, watch, watch, hgiven, hoffered]
          exact ih hnext
      | some turn =>
          rw [hshare] at hstep
          rcases hstep with ⟨hnext, hgiven, hoffered⟩
          rcases ih hnext with ⟨hlast, hreceived, hoffers⟩
          refine ⟨hlast, ?_, ?_⟩
          · rw [received, watch, hgiven]
            exact congrArg _ hreceived
          · rw [offers, watch, hoffered]
            exact congrArg _ hoffers

theorem mem_held_publish (hholds : Holds log id listener) (line : String) :
    id ∈ (log.publish line).held ↔ listener.isOpen = true := by
  constructor
  · intro hheld
    rcases List.mem_map.mp hheld with ⟨⟨_, entry⟩, hentry, rfl⟩
    rcases mem_publish.mp hentry with ⟨before, hbefore, hopen, -⟩
    rw [← hholds.only before hbefore]
    exact hopen
  · intro hopen
    apply List.mem_map.mpr
    exact ⟨_, mem_publish.mpr ⟨listener, hholds.there hopen, hopen, rfl⟩, rfl⟩

end Holds

/-- No listener has begun that the log has not counted. -/
theorem lt_made_of_mem (events : List Event) {id : ListenerId} {entry : Listener}
    (hentry : (id, entry) ∈ (after events).listeners) : id < (after events).made := by
  induction events using List.reverseRecOn generalizing entry with
  | nil =>
      cases hentry
  | append_singleton events event ih =>
      rw [after_concat] at hentry ⊢
      cases event with
      | listen =>
          rcases mem_listen.mp hentry with hold | ⟨rfl, -⟩
          · exact Nat.lt_succ_of_lt (ih hold)
          · exact Nat.lt_succ_self _
      | publish line =>
          rcases mem_publish.mp hentry with ⟨before, hbefore, -⟩
          exact ih hbefore
      | receive other count | drop other =>
          rcases mem_modify.mp hentry with ⟨before, hbefore, -⟩
          exact ih hbefore

theorem holds_listen (before : List Event) :
    Holds (after (before ++ [.listen])) (after before).made .fresh where
  begun := by
    rw [after_concat]
    exact Nat.lt_succ_self _
  only := by
    intro entry hentry
    rw [after_concat] at hentry
    rcases mem_listen.mp hentry with hold | ⟨-, hfresh⟩
    · exact absurd (lt_made_of_mem before hold) (Nat.lt_irrefl _)
    · exact hfresh
  there := by
    intro _
    rw [after_concat]
    exact mem_listen.mpr (.inr ⟨rfl, rfl⟩)
  gone := by
    intro hclosed
    cases hclosed

/-- A listener of the log has gone through its own part of the run since it began. -/
theorem run_of_listen (before rest : List Event) :
    let id := (after before).made
    let begun := after (before ++ [.listen])
    let turns := rest.filterMap (Event.share id)
    Holds (after (before ++ .listen :: rest)) id (Listener.fresh.after turns) ∧
      received id begun rest = watch Listener.through Listener.given .fresh turns ∧
      offers id begun rest = watch Listener.through Listener.offered .fresh turns := by
  intro id begun turns
  have hafter : after (before ++ .listen :: rest) = rest.foldl step begun := by
    rw [List.append_cons, after, List.foldl_append]
    rfl
  rw [hafter]
  exact (holds_listen before).run rest

/-! ## What a listener gets -/

theorem map_offers (id : ListenerId) (log : SysLog) (events : List Event) :
    (offers id log events).map Prod.fst = events.filterMap Event.line? := by
  induction events generalizing log with
  | nil =>
      rfl
  | cons event later ih =>
      rw [offers, watch, List.map_append, List.filterMap_cons]
      have hlater : ((watch step (offered id) (log.step event) later).map Prod.fst) = _ :=
        ih (log.step event)
      rw [hlater]
      cases event <;> rfl

theorem mem_share_leaves {id : ListenerId} {events : List Event} :
    .leaves ∈ events.filterMap (Event.share id) ↔ .drop id ∈ events := by
  rw [List.mem_filterMap]
  constructor
  · rintro ⟨event, hevent, hshare⟩
    cases event with
    | drop other =>
        rw [Event.share] at hshare
        split_ifs at hshare with hself
        rw [← hself]
        exact hevent
    | receive other count =>
        rw [Event.share] at hshare
        split_ifs at hshare
        cases hshare
    | listen | publish line =>
        cases hshare
  · intro hdrop
    exact ⟨_, hdrop, if_pos rfl⟩

/-- A client that follows the lines is handed what its listener receives, one line at a time. -/
theorem pop?_lines (log : SysLog) (id : ListenerId) :
    (Agent.Subscription.lines id).pop? log =
      (given id log (.receive id 1)).head?.map fun line =>
        (.line line, .lines id, log.step (.receive id 1)) := by
  rw [given, if_pos rfl, step, Agent.Subscription.pop?]
  rcases log.receive id 1 with ⟨_ | ⟨line, more⟩, left⟩ <;> rfl

/-- A listener that begins in a run gets, one after another, the lines that are published from then
on, and it loses a line exactly if its queue is full when the line is published; its queue never
holds more than it may. Once it has left, it gets nothing more, and the next line that is published
takes it off the log, which that does to no other listener. All that it gets is decided by its own
part of the run. -/
theorem hears_by_itself (before rest : List Event) :
    let id := (after before).made
    let begun := after (before ++ [.listen])
    let log := after (before ++ .listen :: rest)
    let heard := received id begun rest ++ log.queue id
    heard.Sublist (rest.filterMap Event.line?) ∧
    (log.queue id).length ≤ 100 ∧
    (.drop id ∉ rest →
      heard = ((offers id begun rest).filter fun offer => offer.2 ≠ 100).map Prod.fst) ∧
    (∀ first later, rest = first ++ .drop id :: later →
      received id begun rest = received id begun first ∧ log.queue id = []) ∧
    (∀ line, id ∈ (log.publish line).held ↔ .drop id ∉ rest) ∧
    ∀ before' rest' : List Event,
      let id' := (after before').made
      rest'.filterMap (Event.share id') = rest.filterMap (Event.share id) →
      received id' (after (before' ++ [.listen])) rest' = received id begun rest ∧
        (after (before' ++ .listen :: rest')).queue id' = log.queue id := by
  intro id begun log heard
  rcases run_of_listen before rest with ⟨hholds, hreceived, hoffers⟩
  have hqueue : log.queue id = (Listener.fresh.after (rest.filterMap (Event.share id))).queue :=
    hholds.queue_eq
  have hfits : Listener.fresh.Fits := Nat.zero_le _
  refine ⟨?_, ?_, ?_, ?_, ?_, ?_⟩
  · rw [← map_offers id begun, hoffers]
    change (received id begun rest ++ log.queue id).Sublist _
    rw [hreceived, hqueue]
    exact Listener.watch_append_sublist .fresh _
  · rw [hqueue]
    exact Listener.fits_after hfits _
  · intro hstays
    rw [← mem_share_leaves] at hstays
    rw [hoffers]
    change received id begun rest ++ log.queue id = _
    rw [hreceived, hqueue]
    exact Listener.given_append_after hfits rfl hstays
  · -- Of the turns after its leaving none hands it anything.
    rintro first later rfl
    rcases run_of_listen before first with ⟨-, hfirst, -⟩
    have hturns : (first ++ .drop id :: later).filterMap (Event.share id) =
        first.filterMap (Event.share id) ++ .leaves :: later.filterMap (Event.share id) := by
      simp [Event.share]
    rw [hturns] at hreceived hqueue
    rcases Listener.of_leaves .fresh (first.filterMap (Event.share id))
      (later.filterMap (Event.share id)) with ⟨hlast, hnothing⟩
    rw [hlast] at hqueue
    rw [hnothing] at hreceived
    exact ⟨hreceived.trans hfirst.symm, hqueue⟩
  · intro line
    rw [hholds.mem_held_publish line, Listener.isOpen_after, mem_share_leaves]
    exact and_iff_right rfl
  · -- Both runs are read off the same turns.
    intro before' rest' id' hshare
    rcases run_of_listen before' rest' with ⟨hholds', hreceived', -⟩
    rw [hreceived', hholds'.queue_eq, hshare]
    exact ⟨hreceived.symm, hqueue.symm⟩

/-- A listener that takes nothing until its queue is full, and one that has left by then. -/
theorem hears_by_itself_fullQueue :
    let before : List Event := [.listen, .publish "early"]
    let rest := List.replicate 101 (.publish "boot") ++
      [.receive 1 1, .drop 0, .publish "late", .receive 1 2]
    let log := after (before ++ .listen :: rest)
    .drop 1 ∉ rest ∧
      received 1 (after (before ++ [.listen])) rest ++ log.queue 1 =
        List.replicate 100 "boot" ++ ["late"] ∧
      ∀ line, 1 ∈ (log.publish line).held := by
  intro before rest log
  have hstays : .drop 1 ∉ rest := by decide
  have hoffers : (offers 1 (after (before ++ [.listen])) rest).filter (fun offer => offer.2 ≠ 100) =
      (List.range 100).map (fun length => ("boot", length)) ++ [("late", 99)] := by
    decide +kernel
  rcases hears_by_itself before rest with ⟨-, -, hheard, -, hheld, -⟩
  refine ⟨hstays, ?_, ?_⟩
  · have hlines := hheard hstays
    change received 1 _ rest ++ log.queue 1 = ((offers 1 _ rest).filter _).map _ at hlines
    rw [hlines, hoffers]
    decide +kernel
  · intro line
    exact (hheld line).mpr hstays

end EmulatorHost.SysLog
