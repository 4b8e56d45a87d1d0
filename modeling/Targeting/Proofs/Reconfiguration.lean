import Mathlib.Data.List.Basic
import Mathlib.Data.List.Induction
import Targeting.Log.Outlet

/-!
# Reconfiguration

Configurations, log lines and what the host does with its handlers, in any order and number. The
host may as well have been alone: its handlers and the root logger are what its own events make
of them, and behind them stand the handlers of the last configuration.

## Main result

`configurations_replace_their_own`: the loggers after a configuration that ends any run.

## Proof strategy

One equation for each operation says what it does to the loggers. With it each event keeps the
handlers of the host as those of a run without the library, and keeps it true that handlers of
configurations are numbered in the order in which they were made, and that none is closed and
attached at once.
-/
namespace Targeting.Log

/-- A handler of the host: no configuration marked it. -/
abbrev HostHandler := { handler : Handler // handler.marked = false }

inductive Event where
  | configure (settings : Settings) (limit backups : Int)
  | log (logger : String) (record : Record)
  | attach (handler : HostHandler)
  | detach (handler : HostHandler)
  /-- The host sets up the root logger. -/
  | setRoot (root : Logger)

namespace Event

def perform (o : Outlets) : Event → Outlets
  | configure settings limit backups => o.configure settings limit backups
  | log logger record => o.log logger record
  | attach handler => { o with package := o.package.attach handler }
  | detach handler => { o with package := o.package.detach handler }
  | setRoot root => { o with root }

def isOfHost : Event → Bool
  | configure _ _ _ | log _ _ => false
  | attach _ | detach _ | setRoot _ => true

end Event

namespace Outlets

/-- The outlets after events, from the start on. -/
def after (events : List Event) : Outlets := events.foldl Event.perform {}

theorem after_snoc (events : List Event) (event : Event) :
    after (events ++ [event]) = event.perform (after events) := by
  rw [after, List.foldl_append]
  rfl

variable {o : Outlets} {handler : Handler}

/-! ### Lines -/

/-- Handling lines changes neither the loggers nor which handlers there are. -/
structure Alike (o next : Outlets) : Prop where
  root : next.root = o.root
  package : next.package = o.package
  made : next.made = o.made
  closed : next.closed = o.closed

theorem Alike.trans {middle next : Outlets} (first : o.Alike middle) (second : middle.Alike next) :
    o.Alike next :=
  ⟨second.root.trans first.root, second.package.trans first.package, second.made.trans first.made,
    second.closed.trans first.closed⟩

theorem alike_handle (line : String) (o : Outlets) (h : Handler) : o.Alike (o.handle line h) := by
  unfold handle
  split <;> exact ⟨rfl, rfl, rfl, rfl⟩

theorem alike_foldl_handle (line : String) (handlers : List Handler) (o : Outlets) :
    o.Alike (handlers.foldl (handle line) o) := by
  induction handlers generalizing o with
  | nil => exact ⟨rfl, rfl, rfl, rfl⟩
  | cons h rest ih => exact (alike_handle line o h).trans (ih (o.handle line h))

theorem alike_emit (o : Outlets) (record : Record) : o.Alike (o.emit record) := by
  unfold emit
  split
  · exact ⟨rfl, rfl, rfl, rfl⟩
  · exact alike_foldl_handle record.body o.package.handlers o

theorem alike_log (o : Outlets) (logger : String) (record : Record) :
    o.Alike (o.log logger record) := by
  unfold log
  split
  · exact alike_emit o record
  · exact ⟨rfl, rfl, rfl, rfl⟩

/-! ### Discarding -/

theorem foldl_discard (handlers : List Handler) (o : Outlets) :
    handlers.foldl discard o =
      { o with
        package := { o.package with handlers := o.package.handlers.diff handlers }
        closed := o.closed ++ handlers } := by
  induction handlers generalizing o with
  | nil => simp
  | cons h rest ih => simp [ih, discard, Logger.detach]

/-- What is taken out one by one of the list that it was picked from leaves what was not picked. -/
theorem diff_filter_self {α : Type} [DecidableEq α] (p : α → Bool) (items : List α) :
    items.diff (items.filter p) = items.filter (!p ·) := by
  induction items with
  | nil => rfl
  | cons item rest ih =>
    cases picked : p item with
    | true => simp [picked, ih]
    | false =>
      -- An item that is not picked is found nowhere among those that are.
      have absent : item ∉ rest.filter p := by simp [picked]
      simp [picked, List.cons_diff_of_not_mem absent, ih]

theorem clear_eq (o : Outlets) :
    o.clear =
      { o with
        package := { o.package with handlers := o.package.handlers.filter (!·.marked) }
        closed := o.closed ++ o.package.handlers.filter (·.marked) } := by
  rw [clear, ← List.foldl_filter, foldl_discard, diff_filter_self]

/-! ### Installing -/

/-- New handlers for sinks, numbered from a number on. -/
def fresh : Nat → List Sink → List Handler
  | _, [] => []
  | number, sink :: rest => { number, sink, marked := true } :: fresh (number + 1) rest

theorem of_mem_fresh {number : Nat} {sinks : List Sink} (member : handler ∈ fresh number sinks) :
    handler.marked = true ∧ number ≤ handler.number ∧ handler.number < number + sinks.length := by
  induction sinks generalizing number with
  | nil => cases member
  | cons sink rest ih =>
    rw [List.length_cons]
    rcases List.mem_cons.mp member with rfl | member
    · exact ⟨rfl, Nat.le_refl _, by simp⟩
    · obtain ⟨marked, low, high⟩ := ih member
      exact ⟨marked, by omega, by omega⟩

theorem fresh_sinksOf (number : Nat) (settings : Settings) (limit backups : Int) :
    fresh number (sinksOf settings limit backups) =
      ⟨number, .console, true⟩ :: (settings.logFile.filter (· ≠ "")).toList.map fun path =>
        ⟨number + 1, .file ⟨plainPath path, limit, backups⟩, true⟩ := by
  rw [sinksOf]
  rcases settings.logFile with _ | path
  · rfl
  · by_cases empty : path = ""
    · simp [empty, fresh]
    · simp [empty, fresh, Option.filter]

/-- The marked handlers that are attached were made before. -/
def Numbered (o : Outlets) : Prop :=
  ∀ handler ∈ o.package.handlers, handler.marked = true → handler.number < o.made

theorem install_eq (numbered : o.Numbered) (sink : Sink) :
    o.install sink =
      { o with
        package := { o.package with handlers := o.package.handlers ++ fresh o.made [sink] }
        made := o.made + 1
        files := openSink o.files sink } := by
  have new : Handler.mark { number := o.made, sink } ∉ o.package.handlers := fun member =>
    Nat.lt_irrefl _ (numbered _ member rfl)
  rw [install, Logger.attach, if_neg new]
  rfl

theorem foldl_install (sinks : List Sink) {o : Outlets} (numbered : o.Numbered) :
    sinks.foldl install o =
      { o with
        package := { o.package with handlers := o.package.handlers ++ fresh o.made sinks }
        made := o.made + sinks.length
        files := sinks.foldl openSink o.files } := by
  induction sinks generalizing o with
  | nil => simp [fresh]
  | cons sink rest ih =>
    -- A number is given once, so the next handler is not attached yet either.
    have next : (o.install sink).Numbered := by
      intro handler member marked
      rw [install_eq numbered] at member ⊢
      rcases List.mem_append.mp member with old | new
      · exact Nat.lt_succ_of_lt (numbered handler old marked)
      · exact (of_mem_fresh new).2.2
    rw [List.foldl_cons, ih next, install_eq numbered]
    simp [fresh, Nat.add_comm, Nat.add_left_comm]

/-- Lines aside, a configuration keeps what is not marked and puts new handlers behind it. -/
theorem alike_configure (o : Outlets) (settings : Settings) (limit backups : Int) :
    Alike
      { o with
        package :=
          { weight := settings.logLevel.weight
            handlers := o.package.handlers.filter (!·.marked) ++
              fresh o.made (sinksOf settings limit backups) }
        made := o.made + (sinksOf settings limit backups).length
        closed := o.closed ++ o.package.handlers.filter (·.marked) }
      (o.configure settings limit backups) := by
  have numbered : Numbered
      (clear { o with package := { o.package with weight := settings.logLevel.weight } }) := by
    intro handler member marked
    rw [clear_eq] at member
    simp [marked] at member
  rw [configure, foldl_install _ numbered, clear_eq]
  -- What is left is the line that a configuration ends with.
  refine Alike.trans ?_ (alike_emit _ _)
  exact ⟨rfl, rfl, rfl, rfl⟩

/-! ### The host alone -/

/-- The handlers of the host and the root logger are those of outlets without the library. -/
structure SameHost (o alone : Outlets) : Prop where
  root : o.root = alone.root
  handlers : o.package.handlers.filter (!·.marked) = alone.package.handlers

theorem handlers_attach (l : Logger) (h : Handler) :
    (l.attach h).handlers = if h ∈ l.handlers then l.handlers else l.handlers ++ [h] := by
  rw [Logger.attach]
  split <;> rfl

theorem SameHost.perform_of_host {alone : Outlets} (same : SameHost o alone) {event : Event}
    (ofHost : event.isOfHost = true) : SameHost (event.perform o) (event.perform alone) := by
  cases event with
  | configure => cases ofHost
  | log => cases ofHost
  | setRoot root => exact ⟨rfl, same.handlers⟩
  | attach handler =>
    refine ⟨same.root, ?_⟩
    -- An unmarked handler is attached if it is one of those that are not marked.
    have there : ↑handler ∈ alone.package.handlers ↔ ↑handler ∈ o.package.handlers := by
      rw [← same.handlers, List.mem_filter, handler.property]
      simp
    simp only [Event.perform, handlers_attach, there]
    split
    · exact same.handlers
    · rw [List.filter_append, same.handlers]
      simp [handler.property]
  | detach handler =>
    refine ⟨same.root, ?_⟩
    simp only [Event.perform, Logger.detach]
    rw [← List.erase_filter, same.handlers]

theorem SameHost.perform_of_library {alone : Outlets} (same : SameHost o alone) {event : Event}
    (own : event.isOfHost = false) : SameHost (event.perform o) alone := by
  cases event with
  | attach => cases own
  | detach => cases own
  | setRoot => cases own
  | log logger record =>
    obtain ⟨root, package, -, -⟩ := alike_log o logger record
    exact ⟨root.trans same.root, by rw [Event.perform, package, same.handlers]⟩
  | configure settings limit backups =>
    obtain ⟨root, package, -, -⟩ := alike_configure o settings limit backups
    refine ⟨root.trans same.root, ?_⟩
    have marked : (fresh o.made (sinksOf settings limit backups)).filter (!·.marked) = [] := by
      rw [List.filter_eq_nil_iff]
      intro handler member
      simp [(of_mem_fresh member).1]
    rw [Event.perform, package, List.filter_append, marked]
    simpa using same.handlers

/-- Without the library's events a run comes to the same handlers of the host. -/
theorem sameHost_after (events : List Event) :
    SameHost (after events) (after (events.filter Event.isOfHost)) := by
  induction events using List.reverseRecOn with
  | nil => exact ⟨rfl, rfl⟩
  | append_singleton events event ih =>
    rw [after_snoc, List.filter_append, List.filter_singleton]
    -- An event of the host is in both runs, one of the library only in the first.
    cases ofHost : event.isOfHost with
    | true =>
      rw [cond_true, after_snoc]
      exact ih.perform_of_host ofHost
    | false => simpa using ih.perform_of_library ofHost

/-! ### Handlers of earlier configurations -/

/-- Handlers of configurations are numbered below those still to be made. Only they are closed, and
what is closed is not attached. -/
structure Tidy (o : Outlets) : Prop where
  numbered : o.Numbered
  closed : ∀ handler ∈ o.closed, handler.marked = true ∧ handler.number < o.made
  apart : ∀ handler ∈ o.closed, handler ∉ o.package.handlers

theorem Tidy.of_alike {next : Outlets} (tidy : o.Tidy) (alike : o.Alike next) : next.Tidy where
  numbered := by
    rw [Numbered, alike.package, alike.made]
    exact tidy.numbered
  closed := by
    rw [alike.closed, alike.made]
    exact tidy.closed
  apart := by
    rw [alike.closed, alike.package]
    exact tidy.apart

/-- Handlers that are not marked may come and go. -/
theorem Tidy.of_package {package : Logger} (tidy : o.Tidy)
    (marked : ∀ handler ∈ package.handlers, handler.marked = true →
      handler ∈ o.package.handlers) : Tidy { o with package } where
  numbered := fun handler member mark => tidy.numbered handler (marked handler member mark) mark
  closed := tidy.closed
  apart := fun handler member attached =>
    tidy.apart handler member (marked handler attached (tidy.closed handler member).1)

theorem Tidy.configure (tidy : o.Tidy) (settings : Settings) (limit backups : Int) :
    (o.configure settings limit backups).Tidy := by
  refine Tidy.of_alike ?_ (alike_configure o settings limit backups)
  have closed : ∀ handler ∈ o.closed ++ o.package.handlers.filter (·.marked),
      handler.marked = true ∧ handler.number < o.made := by
    intro handler member
    rcases List.mem_append.mp member with before | now
    · exact tidy.closed handler before
    · obtain ⟨attached, marked⟩ := List.mem_filter.mp now
      exact ⟨marked, tidy.numbered handler attached marked⟩
  constructor
  case numbered =>
    intro handler member marked
    rcases List.mem_append.mp member with kept | new
    · simp [marked] at kept
    · exact (of_mem_fresh new).2.2
  case closed =>
    intro handler member
    obtain ⟨marked, older⟩ := closed handler member
    exact ⟨marked, Nat.lt_add_right _ older⟩
  case apart =>
    -- What is closed was made before, and of what is attached only what is new is marked.
    intro handler member attached
    obtain ⟨marked, older⟩ := closed handler member
    rcases List.mem_append.mp attached with kept | new
    · simp [marked] at kept
    · exact absurd older (Nat.not_lt.mpr (of_mem_fresh new).2.1)

theorem Tidy.perform (tidy : o.Tidy) (event : Event) : (event.perform o).Tidy := by
  cases event with
  | configure settings limit backups => exact tidy.configure settings limit backups
  | log logger record => exact tidy.of_alike (alike_log o logger record)
  | attach handler =>
    apply tidy.of_package
    intro other member marked
    rw [handlers_attach] at member
    split at member
    · exact member
    · rcases List.mem_append.mp member with old | new
      · exact old
      · rw [List.mem_singleton.mp new, handler.property] at marked
        cases marked
  | detach handler => exact tidy.of_package fun other member _ => List.mem_of_mem_erase member
  | setRoot root => exact ⟨tidy.numbered, tidy.closed, tidy.apart⟩

theorem tidy_after (events : List Event) : (after events).Tidy := by
  induction events using List.reverseRecOn with
  | nil => exact ⟨nofun, nofun, nofun⟩
  | append_singleton events event ih =>
    rw [after_snoc]
    exact ih.perform event

/-- The handler is attached or closed. -/
def Knows (o : Outlets) (handler : Handler) : Prop :=
  handler ∈ o.package.handlers ∨ handler ∈ o.closed

theorem knows_of_alike {next : Outlets} (known : o.Knows handler) (alike : o.Alike next) :
    next.Knows handler := by
  rw [Knows, alike.package, alike.closed]
  exact known

/-- A configuration closes the marked handlers that are attached. -/
theorem mem_closed_configure (known : o.Knows handler) (marked : handler.marked = true)
    (settings : Settings) (limit backups : Int) :
    handler ∈ (o.configure settings limit backups).closed := by
  rw [(alike_configure o settings limit backups).closed, List.mem_append, List.mem_filter]
  exact known.elim (fun attached => .inr ⟨attached, marked⟩) .inl

/-- The host neither attaches nor detaches a handler that is marked. -/
theorem knows_perform (known : o.Knows handler) (marked : handler.marked = true) (event : Event) :
    (event.perform o).Knows handler := by
  cases event with
  | configure settings limit backups =>
    exact .inr (mem_closed_configure known marked settings limit backups)
  | log logger record => exact knows_of_alike known (alike_log o logger record)
  | attach other =>
    refine known.imp_left fun attached => ?_
    simp only [Event.perform, handlers_attach]
    split
    · exact attached
    · exact List.mem_append_left _ attached
  | detach other =>
    have different : handler ≠ other := by
      rintro rfl
      rw [other.property] at marked
      cases marked
    exact known.imp_left (List.mem_erase_of_ne different).mpr
  | setRoot root => exact known

theorem knows_after (earlier later : List Event) (known : (after earlier).Knows handler)
    (marked : handler.marked = true) : (after (earlier ++ later)).Knows handler := by
  -- The run that made the handler known stays as it is, and what comes later grows at its end.
  induction later using List.reverseRecOn with
  | nil => simpa using known
  | append_singleton later event ih =>
    rw [← List.append_assoc, after_snoc]
    exact knows_perform ih marked event

/-- A configuration that ends a run of configurations, log lines and doings of the host leaves the
handlers of the host as the host alone would have them. Behind them stand a new console handler and,
if the settings name a file, a new handler of the file. The handlers of earlier configurations are
closed, and what is closed is neither attached nor the host's. The level is that of the settings,
and the root logger is as the host set it up. -/
theorem configurations_replace_their_own (events : List Event) (settings : Settings)
    (limit backups : Int) :
    let before := after events
    let configured := before.configure settings limit backups
    let alone := after (events.filter Event.isOfHost)
    let console : Handler := { number := before.made, sink := .console, marked := true }
    let file (path : String) : Handler :=
      { number := before.made + 1, sink := .file ⟨plainPath path, limit, backups⟩, marked := true }
    configured.package.handlers =
        alone.package.handlers ++ console :: (settings.logFile.filter (· ≠ "")).toList.map file ∧
      (∀ handler ∈ alone.package.handlers, handler.marked = false) ∧
      configured.package.weight = settings.logLevel.weight ∧
      configured.root = alone.root ∧
      (∀ earlier later, events = earlier ++ later → ∀ handler ∈ (after earlier).package.handlers,
        handler.marked = true → handler ∈ configured.closed) ∧
      ∀ handler ∈ configured.closed,
        handler.marked = true ∧ handler ∉ configured.package.handlers := by
  intro before configured alone console file
  obtain ⟨root, package, -, -⟩ := alike_configure before settings limit backups
  have same : before.SameHost alone := sameHost_after events
  have tidy : configured.Tidy := (tidy_after events).configure settings limit backups
  refine ⟨?_, ?_, ?_, ?_, ?_, ?_⟩
  · rw [package, same.handlers, fresh_sinksOf]
  · intro handler member
    rw [← same.handlers] at member
    simpa using (List.mem_filter.mp member).2
  · rw [package]
  · exact root.trans same.root
  · rintro earlier later rfl handler member marked
    exact mem_closed_configure (knows_after earlier later (.inl member) marked) marked _ _ _
  · exact fun handler member => ⟨(tidy.closed handler member).1, tidy.apart handler member⟩

/-- Between two configurations the host attaches a handler. It keeps it, and it keeps the one that
writes to the console as those of the configurations do. -/
theorem configurations_replace_their_own_of_interleaved :
    let first : HostHandler := ⟨{ number := 0, sink := .console }, rfl⟩
    let second : HostHandler := ⟨{ number := 0, sink := .other "queue" }, rfl⟩
    let earlier : List Event := [.attach first, .configure { logFile := some "a.log" } 0 0]
    let before := after (earlier ++ [.attach second])
    let configured := before.configure { logLevel := .error, logFile := some "" } 0 0
    before.package.handlers =
        [first.val, ⟨0, .console, true⟩, ⟨1, .file ⟨plainPath "a.log", 0, 0⟩, true⟩, second.val] ∧
      configured.package.handlers = [first.val, second.val, ⟨2, .console, true⟩] ∧
      configured.package.weight = 40 ∧
      ⟨0, .console, true⟩ ∈ configured.closed ∧
      ⟨1, .file ⟨plainPath "a.log", 0, 0⟩, true⟩ ∈ configured.closed := by
  intro first second earlier
  obtain ⟨-, package, made, -⟩ :=
    alike_configure (after [.attach first]) { logFile := some "a.log" } 0 0
  have installed : (after earlier).package.handlers =
      [first.val, ⟨0, .console, true⟩, ⟨1, .file ⟨plainPath "a.log", 0, 0⟩, true⟩] :=
    congrArg Logger.handlers package
  obtain ⟨attached, -, level, -, closed, -⟩ := configurations_replace_their_own
    (earlier ++ [.attach second]) { logLevel := .error, logFile := some "" } 0 0
  have discarded := closed earlier [.attach second] rfl
  rw [installed] at discarded
  have numbered : (after (earlier ++ [.attach second])).made = 2 := made
  rw [numbered] at attached
  dsimp only
  refine ⟨?_, attached, level, discarded _ (by simp) rfl, discarded _ (by simp) rfl⟩
  rw [after_snoc]
  simp [Event.perform, handlers_attach, installed, first, second]

end Outlets

end Targeting.Log
