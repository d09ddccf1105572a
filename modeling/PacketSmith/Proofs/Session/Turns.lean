import PacketSmith.Proofs.Session.Confinement

/-!
# Sessions that take turns

Each language has a sequence: its session is started and asked to write messages and managers, up
to the first failure. A schedule says whose turn it is next; it gives a run of the sequences on one
disk. While the output root stands, turns of different languages can be swapped, because each is
confined: neither changes what the other looks at, and what they change is apart. So the order of
turns makes no difference from the first start that succeeds on.
-/

namespace PacketSmith

/-- What a session is asked to do once it has started. -/
inductive Call where
  /-- To write the file of a message. -/
  | message (message : Message)
  /-- To write the support files and the manager file. -/
  | manager (slots : List (Option Message))
  deriving DecidableEq, Repr

/-- Whether a message to be written is named by an identifier. -/
def Call.IsNamed : Call → Prop
  | .message written => Name.isIdentifier written.name = true
  | .manager _ => True

/-- Do what a session is asked to do. The outcome is the paths of the files. -/
def Session.perform (session : Session) : Call → Disk → Disk × Except Failure (List String)
  | .message message, disk =>
    match session.writeMessage message disk with
    | (disk, .error failure) => (disk, .error failure)
    | (disk, .ok path) => (disk, .ok [path])
  | .manager slots, disk => session.writeManager slots disk

/-- What a turn in a sequence gives back. -/
inductive Reply where
  /-- The outcome of the start. -/
  | start (outcome : Except Failure Session)
  /-- The outcome of a call. -/
  | call (outcome : Except Failure (List String))
  deriving DecidableEq, Repr

/-- How far a sequence has come. -/
inductive Activity where
  /-- The session has not been started. -/
  | waiting
  /-- The session has been started. -/
  | running (session : Session)
  /-- Something has failed. -/
  | stopped
  deriving DecidableEq, Repr

/-- The sequence of a language. -/
structure Actor where
  /-- Where the session's templates come from. -/
  templates : TemplateSource
  /-- What is still to be done once the session has started. -/
  calls : List Call
  /-- How far the sequence has come. -/
  activity : Activity
  /-- What the turns so far gave back. -/
  replies : List Reply
  deriving DecidableEq, Repr

namespace Actor

/-- What a turn does to the disk, and what it gives back, unless nothing is left to be done. -/
def act (config : Config) (language : Language) (actor : Actor) (disk : Disk) :
    Disk × Option Reply :=
  match actor.activity, actor.calls with
  | .waiting, _ =>
    let (disk, outcome) := Session.start config language actor.templates disk
    (disk, some (.start outcome))
  | .running session, call :: _ =>
    let (disk, outcome) := session.perform call disk
    (disk, some (.call outcome))
  | .running _, [] | .stopped, _ => (disk, none)

/-- The sequence behind a turn. -/
def told (actor : Actor) : Option Reply → Actor
  | none => actor
  | some reply =>
    let replies := actor.replies ++ [reply]
    match reply with
    | .start (.ok session) => { actor with activity := .running session, replies := replies }
    | .call (.ok _) => { actor with calls := actor.calls.tail, replies := replies }
    | .start (.error _) | .call (.error _) =>
      { actor with activity := .stopped, replies := replies }

end Actor

/-- A disk and the sequences of all languages. -/
@[ext] structure Stage where
  /-- The disk. -/
  disk : Disk
  /-- The sequence of each language. -/
  actor : Language → Actor

namespace Stage

/-- The stage on which no session has been started. -/
def initial (disk : Disk) (templates : Language → TemplateSource)
    (calls : Language → List Call) : Stage :=
  ⟨disk, fun language => ⟨templates language, calls language, .waiting, []⟩⟩

/-- A turn of a language. -/
def turn (config : Config) (stage : Stage) (language : Language) : Stage :=
  let (disk, reply) := (stage.actor language).act config language stage.disk
  ⟨disk, fun other =>
    if other = language then (stage.actor language).told reply else stage.actor other⟩

/-- The turns of a schedule. -/
def run (config : Config) (stage : Stage) (schedule : List Language) : Stage :=
  schedule.foldl (turn config) stage

/-- Whether two stages have the same sequences and the same on their disks. -/
structure SameAs (stage other : Stage) : Prop where
  /-- The sequences are the same, with all that they were given back. -/
  actors : stage.actor = other.actor
  /-- The current directory is the same. -/
  current : stage.disk.here = other.disk.here
  /-- The same stands everywhere. -/
  disks : ∀ location, stage.disk.node? location = other.disk.node? location

namespace SameAs

variable {stage other third : Stage}

/-- A stage is the same as itself. -/
theorem refl (stage : Stage) : stage.SameAs stage :=
  ⟨rfl, rfl, fun _ => rfl⟩

/-- Stages are the same in both directions. -/
theorem symm (same : stage.SameAs other) : other.SameAs stage :=
  ⟨same.actors.symm, same.current.symm, fun location => (same.disks location).symm⟩

/-- What is the same as the same is the same. -/
theorem trans (first : stage.SameAs other) (second : other.SameAs third) : stage.SameAs third :=
  ⟨first.actors.trans second.actors, first.current.trans second.current,
    fun location => (first.disks location).trans (second.disks location)⟩

end SameAs

/-- What is true of the sequences at any time. -/
structure Sound (config : Config) (here : Location) (stage : Stage) : Prop where
  /-- The way to the output root does not begin below an output directory. -/
  outside : ∀ language, config.BeginsOutside here language
  /-- Templates are not looked for in the output directories of other languages. -/
  apart : ∀ language, (stage.actor language).templates.IsApart config here language
  /-- Messages are named by identifiers. -/
  named : ∀ language, ∀ call ∈ (stage.actor language).calls, call.IsNamed
  /-- A session that has been started is that of the configuration. -/
  ours : ∀ language session, (stage.actor language).activity = .running session →
    session = config.sessionFrom language (stage.actor language).templates

end Stage

variable {config : Config} {here : Location} {language other : Language} {stage twin : Stage}

section Starting

-- Looking at a start must not look into what it does to the disk.
attribute [local irreducible] Session.clearDirectory Disk.makeDirectories

/-- A session that starts is that of the configuration. -/
theorem Session.start_ours {templates : TemplateSource} {disk after : Disk} {session : Session}
    (started : start config language templates disk = (after, .ok session)) :
    session = config.sessionFrom language templates := by
  rw [start_steps] at started
  split at started
  · cases started
  · split at started <;> cases started
    rfl

end Starting

/-- To do what is asked is confined. -/
theorem Session.perform_confined {templates : TemplateSource}
    (apart : templates.IsApart config here language) (call : Call) (named : call.IsNamed) :
    Confined config here language ((config.sessionFrom language templates).perform call) := by
  cases call with
  | message message =>
    have written := write_message_confined apart message named
    refine (written.and_then fun path => .nothing (.ok [path])).congr fun disk => ?_
    rw [perform]
    cases (config.sessionFrom language templates).writeMessage message disk with
    | mk between result => cases result <;> rfl
  | manager slots => exact write_manager_confined apart slots

/-- What is made of the outcome of a confined step makes a confined step with it. -/
theorem Confined.map {Result Next : Type} {step : Disk → Disk × Result}
    (confined : Confined config here language step) (made : Result → Next) :
    Confined config here language fun disk => ((step disk).1, made (step disk).2) := by
  refine ⟨confined.tree, confined.current, confined.frame,
    fun disk twin rooted twinRooted agree => ?_⟩
  obtain ⟨same, agreeAfter⟩ := confined.blind disk twin rooted twinRooted agree
  exact ⟨congrArg made same, agreeAfter⟩

/-- A session that is running behind a turn was running before it, or has been started by it. -/
theorem Actor.runs_behind {actor : Actor} {disk : Disk} {session : Session}
    (running : (actor.told (actor.act config language disk).2).activity = .running session) :
    actor.activity = .running session ∨
      ∃ after, Session.start config language actor.templates disk = (after, .ok session) := by
  cases activity : actor.activity with
  | waiting =>
    right
    cases outcome : Session.start config language actor.templates disk with
    | mk after result =>
      simp only [act, activity, outcome] at running
      cases result with
      | error failure => cases running
      | ok started =>
        obtain rfl : started = session := Activity.running.inj running
        exact ⟨after, rfl⟩
  | running before =>
    left
    cases calls : actor.calls with
    | nil =>
      simp only [act, activity, calls, told] at running
      exact running
    | cons call others =>
      simp only [act, activity, calls] at running
      cases result : (before.perform call disk).2 with
      | error failure =>
        rw [result] at running
        cases running
      | ok paths =>
        rw [result] at running
        exact activity.symm.trans running
  | stopped =>
    simp only [act, activity, told] at running
    cases running

namespace Stage

/-- A turn is confined. -/
theorem Sound.act_confined (sound : stage.Sound config here) (language : Language) :
    Confined config here language ((stage.actor language).act config language) := by
  cases activity : (stage.actor language).activity with
  | waiting =>
    have started := (Session.start_confined (sound.outside language)
      (stage.actor language).templates).map fun outcome => some (Reply.start outcome)
    refine started.congr fun disk => ?_
    rw [Actor.act, activity]
  | running session =>
    obtain rfl := sound.ours language session activity
    cases calls : (stage.actor language).calls with
    | nil =>
      refine (Confined.nothing none).congr fun disk => ?_
      rw [Actor.act, activity, calls]
    | cons call others =>
      have named : call.IsNamed :=
        sound.named language call (calls ▸ List.mem_cons_self)
      have performed := (Session.perform_confined (sound.apart language) call named).map
        fun outcome => some (Reply.call outcome)
      refine performed.congr fun disk => ?_
      rw [Actor.act, activity, calls]
  | stopped =>
    refine (Confined.nothing none).congr fun disk => ?_
    rw [Actor.act, activity]

/-- A run is a turn and the run behind it. -/
theorem run_cons (config : Config) (stage : Stage) (language : Language)
    (schedule : List Language) :
    stage.run config (language :: schedule) = (stage.turn config language).run config schedule :=
  rfl

/-- A turn leaves the disk that it makes. -/
theorem turn_disk (config : Config) (stage : Stage) (language : Language) :
    (stage.turn config language).disk =
      ((stage.actor language).act config language stage.disk).1 :=
  rfl

/-- A turn changes the sequence of its language only. -/
theorem turn_actor (config : Config) (stage : Stage) (language other : Language)
    (different : other ≠ language) : (stage.turn config language).actor other = stage.actor other :=
  if_neg different

/-- A turn changes the sequence of its language by what the turn gives back. -/
theorem turn_own (config : Config) (stage : Stage) (language : Language) :
    (stage.turn config language).actor language = (stage.actor language).told
      ((stage.actor language).act config language stage.disk).2 :=
  if_pos rfl

/-- What is true of the sequences stays true. -/
theorem Sound.turn (sound : stage.Sound config here) (language : Language) :
    (stage.turn config language).Sound config here := by
  -- What a turn gives back changes neither templates nor the calls left, but for the first.
  have kept : ∀ reply, ((stage.actor language).told reply).templates =
        (stage.actor language).templates ∧
      ∀ call ∈ ((stage.actor language).told reply).calls, call ∈ (stage.actor language).calls := by
    intro reply
    cases reply with
    | none => exact ⟨rfl, fun _ member => member⟩
    | some reply =>
      cases reply with
      | start outcome => cases outcome <;> exact ⟨rfl, fun _ member => member⟩
      | call outcome =>
        cases outcome with
        | error failure => exact ⟨rfl, fun _ member => member⟩
        | ok paths => exact ⟨rfl, fun _ member => List.mem_of_mem_tail member⟩
  refine ⟨sound.outside, ?apart, ?named, ?ours⟩
  case apart =>
    intro other
    by_cases itself : other = language
    · subst itself
      rw [turn_own, (kept _).1]
      exact sound.apart other
    · rw [turn_actor config stage language other itself]
      exact sound.apart other
  case named =>
    intro other call member
    by_cases itself : other = language
    · subst itself
      rw [turn_own] at member
      exact sound.named other call ((kept _).2 call member)
    · rw [turn_actor config stage language other itself] at member
      exact sound.named other call member
  case ours =>
    intro other session running
    by_cases itself : other = language
    · subst itself
      rw [turn_own] at running ⊢
      rw [(kept _).1]
      rcases Actor.runs_behind running with before | ⟨after, started⟩
      · exact sound.ours other session before
      · exact Session.start_ours started
    · rw [turn_actor config stage language other itself] at running ⊢
      exact sound.ours other session running

/-- The output root stands after a turn. -/
theorem Sound.turn_rooted (sound : stage.Sound config here) (rooted : config.Rooted here stage.disk)
    (language : Language) : config.Rooted here (stage.turn config language).disk :=
  (sound.act_confined language).rooted rooted

/-- A turn is the same on stages that are the same. -/
theorem Sound.turn_same (sound : stage.Sound config here) (rooted : config.Rooted here stage.disk)
    (same : stage.SameAs twin) (language : Language) :
    (stage.turn config language).SameAs (twin.turn config language) := by
  have confined := sound.act_confined language
  have twinRooted : config.Rooted here twin.disk :=
    rooted.kept (fun location name stands => by
      rw [← same.disks] at stands ⊢
      exact rooted.tree location name stands) (same.current.symm.trans rooted.current)
      fun location _ => (same.disks location).symm
  obtain ⟨reply, agree⟩ := confined.blind stage.disk twin.disk rooted twinRooted
    fun location _ => same.disks location
  constructor
  case actors =>
    funext other
    by_cases itself : other = language
    · subst itself
      rw [turn_own, turn_own, ← same.actors, reply]
    · rw [turn_actor _ _ _ _ itself, turn_actor _ _ _ _ itself, same.actors]
  case current =>
    have twinCurrent := confined.current twin.disk twinRooted
    rw [same.actors] at twinCurrent
    exact (confined.current stage.disk rooted).trans twinCurrent.symm
  case disks =>
    intro location
    by_cases owned : config.Owns here language location
    · have after := agree location (config.sees_inside owned.1)
      rw [same.actors] at after
      rw [turn_disk, turn_disk, same.actors]
      exact after
    · have before := confined.frame stage.disk rooted location owned
      have twinBefore := confined.frame twin.disk twinRooted location owned
      rw [same.actors] at twinBefore
      exact before.trans ((same.disks location).trans twinBefore.symm)

/-- The disk behind turns of two languages. -/
theorem turn_turn_disk (config : Config) (stage : Stage) (first second : Language)
    (different : second ≠ first) :
    ((stage.turn config first).turn config second).disk =
      ((stage.actor second).act config second
        ((stage.actor first).act config first stage.disk).1).1 := by
  rw [turn_disk, turn_actor config stage first second different, turn_disk]

/-- Turns of two languages lead to the same sequences in either order if each gives back what it
would give back alone. -/
theorem turn_actors_swap (config : Config) (stage : Stage) (first second : Language)
    (different : second ≠ first)
    (firstAlone : ((stage.actor first).act config first
        ((stage.actor second).act config second stage.disk).1).2 =
      ((stage.actor first).act config first stage.disk).2)
    (secondAlone : ((stage.actor second).act config second
        ((stage.actor first).act config first stage.disk).1).2 =
      ((stage.actor second).act config second stage.disk).2) :
    ((stage.turn config first).turn config second).actor =
      ((stage.turn config second).turn config first).actor := by
  have firstKept := turn_actor config stage second first (Ne.symm different)
  have secondKept := turn_actor config stage first second different
  funext other
  by_cases isFirst : other = first
  · subst isFirst
    rw [turn_actor _ _ _ _ (Ne.symm different), turn_own, turn_own, firstKept]
    exact congrArg _ firstAlone.symm
  by_cases isSecond : other = second
  · subst isSecond
    rw [turn_own, secondKept, turn_actor _ _ _ _ isFirst, turn_own]
    exact congrArg _ secondAlone
  · rw [turn_actor _ _ _ _ isSecond, turn_actor _ _ _ _ isFirst, turn_actor _ _ _ _ isFirst,
      turn_actor _ _ _ _ isSecond]

/-- Turns of different languages can be swapped. -/
theorem Sound.turn_swap (sound : stage.Sound config here) (rooted : config.Rooted here stage.disk)
    (first second : Language) (different : second ≠ first) :
    ((stage.turn config first).turn config second).SameAs
      ((stage.turn config second).turn config first) := by
  obtain ⟨secondAlone, firstAlone, disks⟩ :=
    (sound.act_confined first).swap (sound.act_confined second) different rooted
  constructor
  case actors => exact turn_actors_swap config stage first second different firstAlone secondAlone
  case current =>
    have firstThen := (sound.turn first).turn_rooted (sound.turn_rooted rooted first) second
    have secondThen := (sound.turn second).turn_rooted (sound.turn_rooted rooted second) first
    exact firstThen.current.trans secondThen.current.symm
  case disks =>
    intro location
    rw [turn_turn_disk _ _ _ _ different, turn_turn_disk _ _ _ _ (Ne.symm different)]
    exact disks location

/-- A run is the same on stages that are the same. -/
theorem Sound.run_same (sound : stage.Sound config here) (rooted : config.Rooted here stage.disk)
    (same : stage.SameAs twin) (schedule : List Language) :
    (stage.run config schedule).SameAs (twin.run config schedule) := by
  induction schedule generalizing stage twin with
  | nil => exact same
  | cons language schedule inductionHypothesis =>
    exact inductionHypothesis (sound.turn language) (sound.turn_rooted rooted language)
      (sound.turn_same rooted same language)

/-- While the output root stands, schedules with the same turns in another order run to the same.

Proof: induction on the permutation. Two turns that are swapped give the same, and what follows
keeps it the same. -/
theorem Sound.run_perm (sound : stage.Sound config here) (rooted : config.Rooted here stage.disk)
    {schedule reordered : List Language} (permutation : schedule.Perm reordered) :
    (stage.run config schedule).SameAs (stage.run config reordered) := by
  induction permutation generalizing stage with
  | nil => exact .refl _
  | cons language _ inductionHypothesis =>
    exact inductionHypothesis (sound.turn language) (sound.turn_rooted rooted language)
  | swap first second schedule =>
    by_cases itself : second = first
    · subst itself
      exact .refl _
    · have soundAfter := (sound.turn second).turn first
      have rootedAfter :=
        (sound.turn second).turn_rooted (sound.turn_rooted rooted second) first
      have swapped := sound.turn_swap rooted second first (Ne.symm itself)
      exact soundAfter.run_same rootedAfter swapped schedule
  | trans _ _ first second => exact (first sound rooted).trans (second sound rooted)

end Stage
end PacketSmith
