import CallTone.App
import CallTone.Proofs.ResolverRuns
import CallTone.Resolver.Script

/-! Where a selection comes from. What an operation asked is compared with what
it selected: which sounds it tried to load, in which contexts, which reference it
read from the settings store, and what it left alone. Nothing is assumed of the
parts; all of it is read off the events of the run. -/
namespace CallTone.SelectionProvenance
open Dialogue DialogueRuns ResolverRuns

/-- A request to load a sound, and its reply. -/
structure Load (Handle : Type) where
  context : Context
  uri : String
  shaper : Option VolumeShaper
  attributes : AudioAttributes
  reply : Except Failure (Option Handle)

/-- The handle that a load was replied with, if any. -/
def Load.handle (load : Load Handle) : Option Handle :=
  match load.reply with
  | .ok handle => handle
  | .error _ => none

def loadOf : Event Handle → Option (Load Handle)
  | .asked (.load context uri shaper attributes) reply _ =>
    some ⟨context, uri, shaper, attributes, reply⟩
  | _ => none

/-- The sounds that were to be loaded, in their order. -/
def loadsOf (events : List (Event Handle)) : List (Load Handle) := events.filterMap loadOf

def readOf : Event Handle → Option (Except Failure (Option String))
  | .asked (.actualDefault _ _) reply _ => some reply
  | .asked (.systemDefault _) reply _ => some reply
  | _ => none

/-- What the settings store gave as defaults, in its order. -/
def readsOf (events : List (Event Handle)) : List (Except Failure (Option String)) :=
  events.filterMap readOf

def resolutionOf : Event Handle → Option Context
  | .asked (.scopedContext _ _ _) (.ok context) _ => some context
  | _ => none

/-- The contexts that were resolved for users, in their order. -/
def resolutionsOf (events : List (Event Handle)) : List Context := events.filterMap resolutionOf

/-- What requests are for. -/
inductive Topic where
  | context
  | sound
  | default
  | volume
deriving DecidableEq

def topicOf : Event Handle → Option Topic
  | .asked .currentUser _ _ | .asked (.enabledProfiles _) _ _ | .asked (.scopedContext ..) _ _ =>
    some .context
  | .asked (.load ..) _ _ => some .sound
  | .asked .baseContext _ _ | .asked (.stringFor ..) _ _ | .asked (.isUnlocked _) _ _
  | .asked (.actualDefault ..) _ _ | .asked (.systemDefault _) _ _ => some .default
  | .asked (.setVolume ..) _ _ => some .volume
  | .noted _ => none

/-- What the requests were for, in their order. -/
def topicsOf (events : List (Event Handle)) : List Topic := events.filterMap topicOf

/-- The user of the context has chosen a default ringtone, as the settings store
answered. -/
def HasChosen (events : List (Event Handle)) (context : Context) : Prop :=
  ∃ value remarks, value ≠ "" ∧
    .asked (.stringFor context SoundKind.ringtone.settingKey context.userId) (.ok value) remarks ∈
      events

/-- The context is the program's own. -/
def IsBase (events : List (Event Handle)) (context : Context) : Prop :=
  ∃ remarks, .asked .baseContext (.ok context) remarks ∈ events

/-- The stored default of a user is read only right after the user was found to be
unlocked, and the systemwide one only right after a user was found to be locked. -/
structure ReadsByLock (events : List (Event Handle)) : Prop where
  own : ∀ context kind reply remarks, .asked (.actualDefault context kind) reply remarks ∈ events →
    ∃ answered, [.asked (.isUnlocked context.userId) (.ok true) answered,
      .asked (.actualDefault context kind) reply remarks] <:+: events
  systemwide : ∀ kind reply remarks, .asked (.systemDefault kind) reply remarks ∈ events →
    ∃ user answered, [.asked (.isUnlocked user) (.ok false) answered,
      .asked (.systemDefault kind) reply remarks] <:+: events

/-- What is selected for a call comes from the caller's ringtone or from the
default, each asked for at most once, as the events of the run show. -/
structure Provenance (call : IncomingCall) (shaper : Option VolumeShaper) (muted : Bool)
    (events : List (Event Handle)) (selection : Option (Selection Handle))
    (caller default : Option (Load Handle)) : Prop where
  /-- The engine is asked for the caller's ringtone and then for the default. -/
  loads : loadsOf events = caller.toList ++ default.toList
  /-- It is asked with the volume curve and the haptics of the call, and for no
  empty reference. -/
  alike : ∀ load ∈ loadsOf events,
    load.shaper = shaper ∧ load.attributes = AudioAttributes.ringtone muted ∧ load.uri ≠ ""
  /-- The caller's ringtone is asked for in the context that was resolved, when there
  are both. -/
  caller_iff : ∀ context uri, (∃ load ∈ caller, load.context = context ∧ load.uri = uri) ↔
    resolutionsOf events = [context] ∧ call.ringtone = some uri ∧ uri ≠ ""
  /-- The default is asked for when the caller's ringtone gave no handle. It is what
  the settings store gave for the user whose default is played. -/
  fallback : ∀ load ∈ default, (∀ tried ∈ caller, tried.handle = none) ∧
    readsOf events = [.ok (some load.uri)] ∧
    (resolutionsOf events = [load.context] ∧ HasChosen events load.context ∨
      IsBase events load.context)
  /-- The selection is that of the last load: its reference, and the handle that it was
  replied with. -/
  selected : ∀ chosen ∈ selection,
    ∃ load ∈ (loadsOf events).getLast?, load.uri = chosen.uri ∧ load.handle = chosen.handle
  /-- A reference without a handle is what the settings store gave. -/
  unplayable : ∀ chosen ∈ selection, chosen.handle = none →
    readsOf events = [.ok (some chosen.uri)]
  /-- Nothing is selected exactly when neither gave anything. -/
  nothing_iff : selection = none ↔ default = none ∧ ∀ tried ∈ caller, tried.handle = none
  /-- When the caller's ringtone is played, nothing is asked about defaults. -/
  undisturbed : (∃ tried ∈ caller, tried.handle ≠ none) → .default ∉ topicsOf events
  /-- Whose default is read is settled by whether the user is unlocked. -/
  reads : ReadsByLock events
  /-- No volume is changed. -/
  volumes : .volume ∉ topicsOf events

/-! Parts of a run that have nothing to do with a topic -/

/-- Only events that are about a topic are picked, so there are none to pick apart
from it. -/
theorem picked_apart {pick : Event Handle → Option β}
    (within : ∀ event found, pick event = some found → topicOf event = some topic)
    (apart : topic ∉ topicsOf events) : events.filterMap pick = [] := by
  refine List.filterMap_eq_nil_iff.mpr fun event member => ?_
  cases picked : pick event with
  | none => rfl
  | some found =>
    exact (apart (List.mem_filterMap.mpr ⟨event, member, within event found picked⟩)).elim

theorem loads_apart (apart : .sound ∉ topicsOf events) : loadsOf events = [] := by
  refine picked_apart (fun event load picked => ?_) apart
  unfold loadOf at picked
  split at picked
  · rfl
  · cases picked

theorem reads_apart (apart : .default ∉ topicsOf events) : readsOf events = [] := by
  refine picked_apart (fun event reply picked => ?_) apart
  unfold readOf at picked
  split at picked
  · rfl
  · rfl
  · cases picked

theorem resolutions_apart (apart : .context ∉ topicsOf events) : resolutionsOf events = [] := by
  refine picked_apart (fun event context picked => ?_) apart
  unfold resolutionOf at picked
  split at picked
  · rfl
  · cases picked

theorem reads_by_lock_unread (unread : readsOf events = []) : ReadsByLock events := by
  have quiet := List.filterMap_eq_nil_iff.mp unread
  refine ⟨fun _ _ _ _ member => ?_, fun _ _ _ member => ?_⟩
  · cases quiet _ member
  · cases quiet _ member

theorem reads_by_lock_append (first : ReadsByLock before) (second : ReadsByLock after) :
    ReadsByLock (before ++ after) := by
  refine ⟨fun context kind reply remarks member => ?_, fun kind reply remarks member => ?_⟩
  · rcases List.mem_append.mp member with early | late
    · obtain ⟨answered, within⟩ := first.own context kind reply remarks early
      exact ⟨answered, within.trans (List.prefix_append before after).isInfix⟩
    · obtain ⟨answered, within⟩ := second.own context kind reply remarks late
      exact ⟨answered, within.trans (List.suffix_append before after).isInfix⟩
  · rcases List.mem_append.mp member with early | late
    · obtain ⟨user, answered, within⟩ := first.systemwide kind reply remarks early
      exact ⟨user, answered, within.trans (List.prefix_append before after).isInfix⟩
    · obtain ⟨user, answered, within⟩ := second.systemwide kind reply remarks late
      exact ⟨user, answered, within.trans (List.suffix_append before after).isInfix⟩

/-! One part of a run after another -/

theorem topics_append (before after : List (Event Handle)) :
    topicsOf (before ++ after) = topicsOf before ++ topicsOf after := List.filterMap_append

theorem reads_append (before after : List (Event Handle)) :
    readsOf (before ++ after) = readsOf before ++ readsOf after := List.filterMap_append

theorem loads_append (before after : List (Event Handle)) :
    loadsOf (before ++ after) = loadsOf before ++ loadsOf after := List.filterMap_append

theorem resolutions_append (before after : List (Event Handle)) :
    resolutionsOf (before ++ after) = resolutionsOf before ++ resolutionsOf after :=
  List.filterMap_append

/-- Every request of the events is for the topic. -/
def About (topic : Topic) (events : List (Event Handle)) : Prop :=
  ∀ found ∈ topicsOf events, found = topic

theorem about_nothing (topic : Topic) : About topic ([] : List (Event Handle)) := by
  intro found member
  cases member

theorem about_asked (same : topicOf event = some topic) (later : About topic events) :
    About topic (event :: events) := by
  intro found member
  rw [topicsOf, List.filterMap_cons_some same] at member
  cases member with
  | head => rfl
  | tail _ after => exact later found after

theorem about_noted {notice : Notice} (later : About topic events) :
    About topic (.noted notice :: events) := later

theorem about_other (about : About topic events) (other : topic ≠ absent) :
    absent ∉ topicsOf events :=
  fun member => other (about absent member).symm

theorem about_append (first : About topic before) (second : About topic after) :
    About topic (before ++ after) := by
  intro found member
  rw [topics_append] at member
  exact (List.mem_append.mp member).elim (first found) (second found)

/-! Resolving the context of the call -/

theorem context_about (ran : ContextRun package user events result) : About .context events := by
  cases ran with
  | nobody => exact about_nothing _
  | missing => exact about_asked rfl (about_noted (about_nothing _))
  | _ => exact about_asked rfl (about_nothing _)

theorem profile_about (ran : ProfileRun package user events result) : About .context events := by
  cases ran with
  | one _ remarks ran => exact about_asked rfl (context_about ran)
  | nobody => exact about_asked rfl (about_nothing _)
  | _ => exact about_asked rfl (about_noted (about_nothing _))

theorem call_context_about (ran : CallContextRun package call events result) :
    About .context events := by
  cases ran with
  | sessionless => exact about_asked rfl (about_nothing _)
  | profile _ user remarks ran => exact about_asked rfl (profile_about ran)
  | associated _ ran => exact context_about ran

theorem context_resolutions (ran : ContextRun package user events (.ok context)) :
    resolutionsOf events = context.toList := by
  cases ran <;> rfl

theorem profile_resolutions (ran : ProfileRun package user events (.ok context)) :
    resolutionsOf events = context.toList := by
  cases ran with
  | one _ _ ran =>
    have later := context_resolutions ran
    exact later
  | _ => rfl

theorem call_context_resolutions (ran : CallContextRun package call events (.ok context)) :
    resolutionsOf events = context.toList := by
  cases ran with
  | profile _ _ _ ran =>
    have later := profile_resolutions ran
    exact later
  | associated _ ran => exact context_resolutions ran

/-! Trying the caller's ringtone -/

theorem build_about (ran : BuildRun context uri shaper attributes events handle) :
    About .sound events := by
  cases ran with
  | answered => exact about_asked rfl (about_nothing _)
  | failed => exact about_asked rfl (about_noted (about_nothing _))

/-- Loading a sound asks the engine once. -/
theorem build_loads {handle : Option Handle}
    (ran : BuildRun context uri shaper attributes events handle) :
    ∃ load : Load Handle, loadsOf events = [load] ∧ load.handle = handle ∧ load.context = context ∧
      load.uri = uri ∧ load.shaper = shaper ∧ load.attributes = attributes := by
  cases ran with
  | answered handle remarks =>
    exact ⟨⟨context, uri, shaper, attributes, .ok handle⟩, rfl, rfl, rfl, rfl, rfl, rfl⟩
  | failed failure remarks =>
    exact ⟨⟨context, uri, shaper, attributes, .error failure⟩, rfl, rfl, rfl, rfl, rfl, rfl⟩

/-- What trying the caller's ringtone asks of the engine, and what comes of it. -/
structure Tried (context : Option Context) (ringtone : Option String)
    (shaper : Option VolumeShaper) (attributes : AudioAttributes) (events : List (Event Handle))
    (selection : Option (Selection Handle)) (caller : Option (Load Handle)) : Prop where
  about : About .sound events
  loads : loadsOf events = caller.toList
  alike : ∀ load ∈ caller, load.shaper = shaper ∧ load.attributes = attributes ∧ load.uri ≠ ""
  asked_iff : ∀ own uri, (∃ load ∈ caller, load.context = own ∧ load.uri = uri) ↔
    context = some own ∧ ringtone = some uri ∧ uri ≠ ""
  selected : ∀ chosen ∈ selection,
    ∃ load ∈ caller, load.uri = chosen.uri ∧ load.handle = chosen.handle ∧ chosen.handle ≠ none
  vain : selection = none → ∀ load ∈ caller, load.handle = none

theorem asked_once {load : Load Handle} (given : load.uri ≠ "") (own : Context) (uri : String) :
    (∃ asked ∈ some load, asked.context = own ∧ asked.uri = uri) ↔
      some load.context = some own ∧ some load.uri = some uri ∧ uri ≠ "" := by
  constructor
  · rintro ⟨_, ⟨⟩, rfl, rfl⟩
    exact ⟨rfl, rfl, given⟩
  · rintro ⟨⟨⟩, ⟨⟩, -⟩
    exact ⟨load, rfl, rfl, rfl⟩

theorem caller_tried (ran : CallerRun shaper attributes context ringtone events selection) :
    ∃ caller, Tried context ringtone shaper attributes events selection caller := by
  cases ran with
  | untried nothing =>
    refine ⟨none, about_nothing _, rfl, ?_, fun own uri => ⟨?_, ?_⟩, ?_, ?_⟩
    · simp
    · simp
    · rintro ⟨here, named, given⟩
      exact (given (nothing own uri here named)).elim
    · simp
    · simp
  | played given ran =>
    obtain ⟨load, loads, handle, rfl, rfl, rfl, rfl⟩ := build_loads ran
    refine ⟨some load, build_about ran, loads, ?_, asked_once given, ?_, ?_⟩
    · simp [given]
    · simp [handle]
    · simp
  | unplayable given ran =>
    obtain ⟨load, loads, handle, rfl, rfl, rfl, rfl⟩ := build_loads ran
    refine ⟨some load, build_about ran, loads, ?_, asked_once given, ?_, ?_⟩
    · simp [given]
    · simp
    · simp [handle]

/-! Falling back to the default -/

theorem own_default_about (ran : OwnDefaultRun resolved events own) : About .default events := by
  cases ran with
  | contextless => exact about_nothing _
  | unreadable => exact about_asked rfl (about_noted (about_nothing _))
  | _ => exact about_asked rfl (about_nothing _)

theorem own_default_unread (ran : OwnDefaultRun resolved events own) : readsOf events = [] := by
  cases ran <;> rfl

theorem default_context_about (ran : DefaultContextRun resolved events result) :
    About .default events := by
  cases ran with
  | own context ran => exact own_default_about ran
  | base ran reply remarks =>
    exact about_append (own_default_about ran) (about_asked rfl (about_nothing _))

theorem default_context_unread (ran : DefaultContextRun resolved events result) :
    readsOf events = [] := by
  cases ran with
  | own context ran => exact own_default_unread ran
  | base ran reply remarks =>
    rw [reads_append, own_default_unread ran]
    rfl

/-- The default is played for the user of the call who has chosen one, or else for
the program's own. -/
theorem default_context_source (ran : DefaultContextRun resolved events (.ok context)) :
    resolved = some context ∧ HasChosen events context ∨ IsBase events context := by
  cases ran with
  | own context ran =>
    cases ran with
    | chosen _ given remarks =>
      exact .inl ⟨rfl, _, remarks, given, List.mem_singleton_self _⟩
  | base ran reply remarks =>
    exact .inr ⟨remarks, List.mem_append_right _ (List.mem_singleton_self _)⟩

theorem stored_about (read : StoredRun context unlocked events reply) : About .default events := by
  cases read <;> exact about_asked rfl (about_nothing _)

theorem stored_reads (read : StoredRun context unlocked events reply) :
    readsOf events = [reply] := by
  cases read <;> rfl

/-- What is read of the store is the user's own default if the user was found to be
unlocked, else the systemwide one. -/
theorem stored_by_lock (read : StoredRun context unlocked events reply) (remarks : List Notice) :
    ReadsByLock (.asked (.isUnlocked context.userId) (.ok unlocked) remarks :: events) := by
  cases read with
  | own reply further =>
    refine ⟨fun _ _ _ _ member => ?_, fun _ _ _ member => ?_⟩
    · cases member with
      | tail _ later =>
        cases List.mem_singleton.mp later
        exact ⟨remarks, List.infix_rfl⟩
    · simp at member
  | systemwide reply further =>
    refine ⟨fun _ _ _ _ member => ?_, fun _ _ _ member => ?_⟩
    · simp at member
    · cases member with
      | tail _ later =>
        cases List.mem_singleton.mp later
        exact ⟨context.userId, remarks, List.infix_rfl⟩

theorem default_uri_about (ran : DefaultUriRun context events uri) : About .default events := by
  cases ran with
  | lockUnknown => exact about_asked rfl (about_noted (about_nothing _))
  | unreadable unlocked remarks read =>
    exact about_asked rfl (about_append (stored_about read) (about_noted (about_nothing _)))
  | unset unlocked remarks read =>
    exact about_asked rfl (about_append (stored_about read) (about_noted (about_nothing _)))
  | stored unlocked remarks read => exact about_asked rfl (stored_about read)

theorem default_uri_reads (ran : DefaultUriRun context events (some uri)) :
    readsOf events = [.ok (some uri)] := by
  cases ran with
  | stored unlocked remarks read =>
    have later := stored_reads read
    exact later

theorem default_uri_by_lock (ran : DefaultUriRun context events uri) : ReadsByLock events := by
  cases ran with
  | lockUnknown failure remarks => exact reads_by_lock_unread rfl
  | unreadable unlocked remarks read =>
    exact reads_by_lock_append (stored_by_lock read remarks) (reads_by_lock_unread rfl)
  | unset unlocked remarks read =>
    exact reads_by_lock_append (stored_by_lock read remarks) (reads_by_lock_unread rfl)
  | stored unlocked remarks read => exact stored_by_lock read remarks

/-- What falling back to the default asks of the engine and the settings store, and
what comes of it. -/
structure FellBack (resolved : Option Context) (shaper : Option VolumeShaper)
    (attributes : AudioAttributes) (events : List (Event Handle))
    (selection : Option (Selection Handle)) (default : Option (Load Handle)) : Prop where
  about : ∀ topic ∈ topicsOf events, topic = .default ∨ topic = .sound
  loads : loadsOf events = default.toList
  alike : ∀ load ∈ default, load.shaper = shaper ∧ load.attributes = attributes ∧ load.uri ≠ ""
  source : ∀ load ∈ default, readsOf events = [.ok (some load.uri)] ∧
    (resolved = some load.context ∧ HasChosen events load.context ∨ IsBase events load.context)
  selected : ∀ chosen ∈ selection,
    ∃ load ∈ default, load.uri = chosen.uri ∧ load.handle = chosen.handle
  nothing_iff : selection = none ↔ default = none
  byLock : ReadsByLock events

theorem has_chosen_append (after : List (Event Handle)) (chosen : HasChosen events context) :
    HasChosen (events ++ after) context := by
  obtain ⟨value, remarks, given, member⟩ := chosen
  exact ⟨value, remarks, given, List.mem_append_left after member⟩

theorem is_base_append (after : List (Event Handle)) (base : IsBase events context) :
    IsBase (events ++ after) context := by
  obtain ⟨remarks, member⟩ := base
  exact ⟨remarks, List.mem_append_left after member⟩

theorem default_fell_back {selection : Option (Selection Handle)}
    (ran : DefaultRun resolved shaper attributes events (.ok selection)) :
    ∃ default, FellBack resolved shaper attributes events selection default := by
  cases ran with
  | @nothing first context second uri chosen read unnamed =>
    have about := about_append (default_context_about chosen) (default_uri_about read)
    refine ⟨none, fun topic member => .inl (about topic member), loads_apart ?_, ?_, ?_, ?_, ?_, ?_⟩
    · exact about_other about nofun
    · simp
    · simp
    · simp
    · simp
    · exact reads_by_lock_append (reads_by_lock_unread (default_context_unread chosen))
        (default_uri_by_lock read)
  | @named first context second uri third handle chosen read given ran =>
    have begun := about_append (default_context_about chosen) (default_uri_about read)
    have ended := build_about ran
    obtain ⟨load, loads, same, rfl, rfl, rfl, rfl⟩ := build_loads ran
    rw [← List.append_assoc]
    refine ⟨some load, fun topic member => ?_, ?_, ?_, ?_, ?_, ?_, ?_⟩
    · rw [topics_append] at member
      exact (List.mem_append.mp member).imp (begun topic) (ended topic)
    · rw [loads_append, loads_apart (about_other begun nofun), List.nil_append]
      exact loads
    · simp [given]
    · rintro _ ⟨⟩
      refine ⟨?_, (default_context_source chosen).imp ?_ ?_⟩
      · rw [reads_append, reads_append, default_context_unread chosen, default_uri_reads read,
          reads_apart (about_other ended nofun)]
        rfl
      · exact fun own => ⟨own.1, has_chosen_append third (has_chosen_append second own.2)⟩
      · exact fun base => is_base_append third (is_base_append second base)
    · simp [same]
    · simp
    · refine reads_by_lock_append (reads_by_lock_append (reads_by_lock_unread ?_)
        (default_uri_by_lock read)) (reads_by_lock_unread ?_)
      · exact default_context_unread chosen
      · exact reads_apart (about_other ended nofun)

/-! Whole runs -/

theorem fell_back_nothing (resolved : Option Context) (shaper : Option VolumeShaper)
    (attributes : AudioAttributes) :
    FellBack resolved shaper attributes ([] : List (Event Handle)) none none := by
  refine ⟨?_, rfl, ?_, ?_, ?_, ?_, reads_by_lock_unread rfl⟩
  · simp [topicsOf]
  · simp
  · simp
  · simp
  · simp

/-- A run in three stages: resolving the context of the call, trying the caller's
ringtone, and falling back to the default, which is left out if the caller's
ringtone is selected. -/
structure Staged (call : IncomingCall) (shaper : Option VolumeShaper) (muted : Bool)
    (first second third : List (Event Handle)) (context : Option Context)
    (calling fallback : Option (Selection Handle)) (caller default : Option (Load Handle)) :
    Prop where
  finding : About .context first
  resolved : resolutionsOf first = context.toList
  tried : Tried context call.ringtone shaper (AudioAttributes.ringtone muted) second calling caller
  after : FellBack context shaper (AudioAttributes.ringtone muted) third fallback default
  once : ∀ chosen ∈ calling, third = []

section Stages

variable {call : IncomingCall} {shaper : Option VolumeShaper} {muted : Bool}
  {first second third : List (Event Handle)} {context : Option Context}
  {calling fallback : Option (Selection Handle)} {caller default : Option (Load Handle)}
  (staged : Staged call shaper muted first second third context calling fallback caller default)

include staged

theorem staged_loads : loadsOf (first ++ (second ++ third)) = caller.toList ++ default.toList := by
  have silent : .sound ∉ topicsOf first := about_other staged.finding nofun
  rw [loads_append, loads_append, loads_apart silent, staged.tried.loads, staged.after.loads,
    List.nil_append]

theorem staged_resolutions : resolutionsOf (first ++ (second ++ third)) = context.toList := by
  have trying : .context ∉ topicsOf second := about_other staged.tried.about nofun
  have falling : .context ∉ topicsOf third := fun member =>
    (staged.after.about _ member).elim nofun nofun
  rw [resolutions_append, resolutions_append, staged.resolved, resolutions_apart trying,
    resolutions_apart falling, List.append_nil, List.append_nil]

/-- Before the default stage nothing is asked about defaults. -/
theorem staged_undisturbed : .default ∉ topicsOf (first ++ second) := by
  intro member
  rw [topics_append] at member
  rcases List.mem_append.mp member with early | late
  · cases staged.finding _ early
  · cases staged.tried.about _ late

theorem staged_reads : readsOf (first ++ (second ++ third)) = readsOf third := by
  rw [← List.append_assoc, reads_append, reads_apart (staged_undisturbed staged), List.nil_append]

theorem staged_by_lock : ReadsByLock (first ++ (second ++ third)) := by
  have unread := reads_by_lock_unread (reads_apart (staged_undisturbed staged))
  rw [← List.append_assoc]
  exact reads_by_lock_append unread staged.after.byLock

theorem staged_volumes : .volume ∉ topicsOf (first ++ (second ++ third)) := by
  rw [topics_append, topics_append]
  intro member
  rcases List.mem_append.mp member with early | late
  · cases staged.finding _ early
  rcases List.mem_append.mp late with middle | last
  · cases staged.tried.about _ middle
  · exact (staged.after.about _ last).elim nofun nofun

/-- The default is not loaded once the caller's ringtone is selected. -/
theorem staged_single : ∀ chosen ∈ calling, default = none := by
  intro chosen selected
  have unloaded := staged.after.loads
  rw [staged.once chosen selected] at unloaded
  exact Option.toList_eq_nil_iff.mp unloaded.symm

theorem staged_fallback {load : Load Handle} (asked : load ∈ default) : calling = none := by
  cases calling with
  | none => rfl
  | some chosen =>
    rw [staged_single staged chosen rfl] at asked
    cases asked

theorem staged_source {load : Load Handle} (asked : load ∈ default) :
    resolutionsOf (first ++ (second ++ third)) = [load.context] ∧
        HasChosen (first ++ (second ++ third)) load.context ∨
      IsBase (first ++ (second ++ third)) load.context := by
  rcases (staged.after.source load asked).2 with ⟨same, value, remarks, given, found⟩ | base
  · refine .inl ⟨?_, value, remarks, given, ?_⟩
    · rw [staged_resolutions staged, same]
      rfl
    · exact List.mem_append_right first (List.mem_append_right second found)
  · obtain ⟨remarks, found⟩ := base
    exact .inr ⟨remarks, List.mem_append_right first (List.mem_append_right second found)⟩

/-- What is selected was asked for last. -/
theorem staged_selected :
    ∀ chosen ∈ calling.or fallback, ∃ load ∈ (loadsOf (first ++ (second ++ third))).getLast?,
      load.uri = chosen.uri ∧ load.handle = chosen.handle := by
  intro chosen selected
  rw [staged_loads staged]
  cases calling with
  | none =>
    obtain ⟨load, rfl, same, given⟩ := staged.after.selected chosen selected
    exact ⟨load, by simp, same, given⟩
  | some selection =>
    cases selected
    obtain ⟨load, rfl, same, given, -⟩ := staged.tried.selected chosen rfl
    exact ⟨load, by simp [staged_single staged chosen rfl], same, given⟩

theorem staged_unplayable :
    ∀ chosen ∈ calling.or fallback, chosen.handle = none →
      readsOf (first ++ (second ++ third)) = [.ok (some chosen.uri)] := by
  intro chosen selected silent
  rw [staged_reads staged]
  cases calling with
  | none =>
    obtain ⟨load, found, same, -⟩ := staged.after.selected chosen selected
    rw [(staged.after.source load found).1, same]
  | some selection =>
    cases selected
    obtain ⟨load, -, -, -, played⟩ := staged.tried.selected chosen rfl
    exact (played silent).elim

theorem staged_nothing_iff :
    calling.or fallback = none ↔ default = none ∧ ∀ tried ∈ caller, tried.handle = none := by
  cases calling with
  | none =>
    rw [Option.none_or, staged.after.nothing_iff]
    exact ⟨fun nothing => ⟨nothing, staged.tried.vain rfl⟩, And.left⟩
  | some selection =>
    refine ⟨nofun, fun nothing => ?_⟩
    obtain ⟨load, asked, -, given, played⟩ := staged.tried.selected selection rfl
    exact (played (given.symm.trans (nothing.2 load asked))).elim

theorem staged_provenance :
    Provenance call shaper muted (first ++ (second ++ third)) (calling.or fallback) caller
      default := by
  constructor
  case loads => exact staged_loads staged
  case alike =>
    intro load member
    rw [staged_loads staged, List.mem_append, Option.mem_toList, Option.mem_toList] at member
    exact member.elim (staged.tried.alike load) (staged.after.alike load)
  case caller_iff =>
    intro own uri
    rw [staged.tried.asked_iff, staged_resolutions staged]
    cases context <;> simp
  case fallback =>
    intro load asked
    refine ⟨staged.tried.vain (staged_fallback staged asked), ?_, staged_source staged asked⟩
    rw [staged_reads staged]
    exact (staged.after.source load asked).1
  case selected => exact staged_selected staged
  case unplayable => exact staged_unplayable staged
  case nothing_iff => exact staged_nothing_iff staged
  case undisturbed =>
    rintro ⟨load, asked, played⟩
    cases calling with
    | none => exact (played (staged.tried.vain rfl load asked)).elim
    | some selection =>
      rw [staged.once selection rfl, List.append_nil]
      exact staged_undisturbed staged
  case reads => exact staged_by_lock staged
  case volumes => exact staged_volumes staged

end Stages

theorem ringtone_provenance {selection : Option (Selection Handle)}
    (ran : RingtoneRun package call shaper (AudioAttributes.ringtone muted) events
      (.ok selection)) :
    ∃ caller default, Provenance call shaper muted events selection caller default := by
  cases ran with
  | @caller first context second selection found tried =>
    obtain ⟨caller, stage⟩ := caller_tried tried
    have whole := staged_provenance ⟨call_context_about found, call_context_resolutions found,
      stage, fell_back_nothing .., fun _ _ => rfl⟩
    rw [List.append_nil] at whole
    exact ⟨caller, none, whole⟩
  | @default first context second third result found tried ran =>
    obtain ⟨caller, stage⟩ := caller_tried tried
    obtain ⟨default, after⟩ := default_fell_back ran
    have whole := staged_provenance ⟨call_context_about found, call_context_resolutions found,
      stage, after, fun _ selected => by cases selected⟩
    exact ⟨caller, default, whole⟩

/-- An operation that the guard refuses selects nothing. -/
theorem returned_passed {resolver : Resolver} {parts : Collaborators Handle σ}
    (returned : ((resolver.getRingtone thread call shaper muted).hold parts state).result =
      .ok selection) :
    resolver.guard.check "get_ringtone" thread = .ok () := by
  cases checked : resolver.guard.check "get_ringtone" thread with
  | ok => rfl
  | error failure =>
    rw [Resolver.getRingtone, hold_bind, Resolver.checkThread, checked] at returned
    cases returned

/-- Whatever the parts answer, what is selected for a call has the right source. -/
theorem selection_provenance (resolver : Resolver) (parts : Collaborators Handle σ) (state : σ)
    (thread : Thread) (call : IncomingCall) (shaper : Option VolumeShaper) (muted : Bool)
    {selection : Option (Selection Handle)}
    (returned : ((resolver.getRingtone thread call shaper muted).hold parts state).result =
      .ok selection) :
    ∃ caller default, Provenance call shaper muted
      ((resolver.getRingtone thread call shaper muted).hold parts state).events selection caller
      default := by
  have ran := hold_run parts state (resolver.getRingtone thread call shaper muted)
  rw [returned] at ran
  exact ringtone_provenance (get_ringtone_run (returned_passed returned) ran)

/-- Parts that cannot load the sound of the caller. -/
def recovering : Script where
  sessionUser := 0
  baseUser := 0
  profiles := []
  missing := []
  locked := []
  strings := [("0", [("ringtone", "own")])]
  defaults := [("0", some "own")]
  systemDefault := none
  sounds := [("chosen", .fails ⟨.soundLoad, "unreadable"⟩)]
  failures := []

/-- The user's own default is played in place of a sound that fails to load. -/
theorem own_default_provenance :
    let resolver : Resolver := ⟨{}, Guard.ofMain true⟩
    let context : Context := ⟨"org.ringtone.resolver", ⟨0⟩⟩
    let call : IncomingCall := ⟨some "chosen", none, some ⟨0⟩⟩
    let outcome := (resolver.getRingtone App.worker call none true).hold recovering.collaborators ()
    let handle : ScriptedRingtone :=
      ⟨context, "own", Binary64.one, none, AudioAttributes.ringtone true⟩
    let selection : Selection ScriptedRingtone := ⟨"own", some handle, by decide⟩
    outcome.result = .ok (some selection) ∧
      ∃ caller default, Provenance call none true outcome.events (some selection) caller default :=
  ⟨rfl, selection_provenance ⟨{}, Guard.ofMain true⟩ recovering.collaborators () App.worker
    ⟨some "chosen", none, some ⟨0⟩⟩ none true rfl⟩

end CallTone.SelectionProvenance
