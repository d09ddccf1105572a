import PacketSmith.Proofs.Session.Turns

/-!
# Sessions of different languages do not interfere

The sequences of all languages can be run one after the other or interleaved. The first turn starts
a session. If it fails, the sequence stops, and the other one goes on alone. If it succeeds, the
output root stands, and from then on turns of different languages can be swapped. So every
schedule runs to the same as the sequences one after the other, the one first whose turn is first.

Which sequence is first makes no difference either, if nothing can be left over: it would matter
that the first start makes directories on the way to the output root, if another directory is then
found through them that was not found before. And nothing of this is so where the way to the output
root begins below an output directory, so that the start of one session can remove the beginning of
the way for all. Both need an output root with two dots behind a name.
-/

namespace PacketSmith

variable {config : Config} {here : Location} {language : Language} {templates : TemplateSource}
variable {disk between after : Disk}

/-- Whether nothing can be left over: in an output directory that cannot be found because
something on its path is missing, there is nothing but what lies on that path. -/
def Config.Settled (config : Config) (disk : Disk) : Prop :=
  ∀ language, Disk.IsUsable (config.outputPath language) →
    disk.resolve (config.outputPath language) = .error .missing →
    ∀ rest, rest ≠ [] →
      ¬ config.Passes disk.here (config.outputPlace disk.here language ++ rest) →
      disk.node? (config.outputPlace disk.here language ++ rest) = none

/-- Nothing can be left over if no two dots are behind a name in the output root. -/
theorem Config.settled_plain (tree : disk.IsTree)
    (plain : ".." ∉ Path.route config.outputRoot) : config.Settled disk := by
  intro language usable missing rest lower _
  by_contra stands
  exact Disk.resolve_plain tree _ usable.inhabited (config.output_plain plain language)
    (tree.above _ rest lower stands) missing

/-- The output root stands once an output directory has been made. -/
theorem Config.Rooted.of_made (tree : disk.IsTree) (current : disk.here = here)
    (made : config.makeOutput here language disk = (after, true)) : config.Rooted here after := by
  obtain ⟨treeAfter, grows⟩ := Disk.make_way_grows tree made
  obtain ⟨_, begins, leads⟩ := Disk.make_way_reached tree made
  rw [config.output_start] at begins
  rw [config.output_start, config.output_route] at leads
  have root := leads.front _ _
  rw [Path.walk_way] at root
  exact ⟨treeAfter, grows.here.trans current, begins, root⟩

/-- The output root stands once a session has started. -/
theorem Session.start_rooted (tree : disk.IsTree) {session : Session}
    (started : start config language templates disk = (after, .ok session)) :
    config.Rooted disk.here after := by
  by_cases stands : ∃ location,
      disk.resolve (config.outputPath language) = .ok (.directory location)
  · obtain ⟨location, stands⟩ := stands
    obtain rfl : location = config.outputPlace disk.here language :=
      disk.resolve_location _ _ stands
    have outside : config.BeginsOutside disk.here language := by
      intro rest lower inside
      have lost := start_lost templates tree stands rest lower inside
      rw [started] at lost
      cases lost
    obtain ⟨made, anew, along⟩ := start_anew templates tree outside stands
    rw [started] at anew
    cases anew
    exact .of_made (tree.removed _ _ (config.output_lower disk.here language))
      (disk.removed_here _ _) along
  · exact .of_made tree rfl (started_along tree started (not_exists.mp stands))

/-- What is in an output directory that cannot be found is left over by the start of the session. -/
theorem Session.start_leaves (tree : disk.IsTree)
    (missing : disk.resolve (config.outputPath language) = .error .missing) {session : Session}
    (started : start config language templates disk = (after, .ok session)) (location : Location)
    (aside : ¬ Path.LeadsThrough disk.here (config.outputPath language) location) :
    after.node? location = disk.node? location := by
  have along := started_along tree started (by simp [missing])
  exact (Disk.make_way_node tree along location).2 aside

/-- A session that starts where the output root stands leaves nothing over. -/
theorem Session.start_clears (rooted : config.Rooted here disk)
    (outside : config.BeginsOutside here language) {session : Session}
    (started : start config language templates disk = (after, .ok session)) (location : Location)
    (inside : config.outputPlace here language <+: location)
    (aside : ¬ Path.LeadsThrough here (config.outputPath language) location) :
    after.node? location = none := by
  have usable := started_usable started
  have unoccupied : ∀ content,
      disk.node? (config.outputPlace here language) ≠ some (.file content) := by
    intro content file
    rw [rooted.occupied templates usable content file] at started
    cases started
  obtain ⟨made, opens, opened⟩ := rooted.opens outside templates usable unoccupied
  rw [started] at opens
  cases opens
  exact opened.inside location inside aside

/-- Two starts after the same way to the output root leave the same. -/
theorem Session.Opened.same {twin : Disk} (first : Opened config here language between after)
    (second : Opened config here language between twin) (location : Location) :
    after.node? location = twin.node? location := by
  by_cases through : Path.LeadsThrough here (config.outputPath language) location
  · rw [first.way location through, second.way location through]
  by_cases inside : config.outputPlace here language <+: location
  · rw [first.inside location inside through, second.inside location inside through]
  · rw [first.elsewhere location inside, second.elsewhere location inside]

/-- If nothing can be left over, a session starts as if the way to the output root had been made
before. -/
theorem Session.start_approached (templates : TemplateSource) (tree : disk.IsTree)
    (outside : config.BeginsOutside disk.here language) (settled : config.Settled disk)
    (usable : Disk.IsUsable (config.outputPath language))
    (reached : config.approach disk.here disk = (between, true)) :
    (start config language templates disk).2 = (start config language templates between).2 ∧
      (start config language templates disk).1.here =
        (start config language templates between).1.here ∧
      ∀ location, (start config language templates disk).1.node? location =
        (start config language templates between).1.node? location := by
  have rooted := Config.Rooted.of_approach tree reached
  by_cases file : ∃ content,
      between.node? (config.outputPlace disk.here language) = some (.file content)
  · obtain ⟨content, file⟩ := file
    rw [start_occupied tree usable reached content file,
      rooted.occupied templates usable content file]
    exact ⟨rfl, rfl, fun _ => rfl⟩
  · obtain ⟨after, started, opened⟩ := start_opened templates tree usable outside reached
      (not_exists.mp file) (settled language usable)
    obtain ⟨twin, twinStarted, twinOpened⟩ :=
      rooted.opens outside templates usable (not_exists.mp file)
    rw [started, twinStarted]
    exact ⟨rfl, opened.current.trans twinOpened.current.symm, opened.same twinOpened⟩

/-- There is another language. -/
theorem Language.another (language : Language) : ∃ other, other ≠ language := by
  cases language with
  | go => exact ⟨.python, by decide⟩
  | python => exact ⟨.go, by decide⟩

namespace Stage

variable {stage : Stage}

/-- Whether no sequence has had a turn. -/
def IsWaiting (stage : Stage) : Prop :=
  ∀ language, (stage.actor language).activity = .waiting

/-- The first turn of a sequence starts its session. -/
theorem IsWaiting.act (waiting : stage.IsWaiting) (config : Config) (language : Language)
    (disk : Disk) :
    (stage.actor language).act config language disk =
      ((Session.start config language (stage.actor language).templates disk).1,
        some (.start
          (Session.start config language (stage.actor language).templates disk).2)) := by
  rw [Actor.act, waiting language]

/-- A sequence that has stopped changes nothing any more. -/
theorem turn_stopped (stopped : (stage.actor language).activity = .stopped) :
    stage.turn config language = stage := by
  have nothing : (stage.actor language).act config language stage.disk = (stage.disk, none) := by
    rw [Actor.act, stopped]
  apply Stage.ext
  · rw [turn_disk, nothing]
  · funext other
    by_cases itself : other = language
    · subst itself
      rw [turn_own, nothing]
      rfl
    · exact turn_actor config stage language other itself

/-- The turns of a sequence that has stopped can be left out. -/
theorem run_stopped (stopped : (stage.actor language).activity = .stopped)
    (schedule : List Language) :
    stage.run config schedule =
      stage.run config (schedule.filter fun other => other != language) := by
  induction schedule generalizing stage with
  | nil => rfl
  | cons next schedule inductionHypothesis =>
    by_cases itself : next = language
    · subst itself
      have rest := inductionHypothesis stopped
      rw [run_cons, turn_stopped stopped]
      simpa using rest
    · have stillStopped : ((stage.turn config next).actor language).activity = .stopped := by
        rw [turn_actor config stage next language (Ne.symm itself)]
        exact stopped
      have rest := inductionHypothesis stillStopped
      simpa [run_cons, itself] using rest

/-- Languages other than a given one are all the same one, so that there is only one order of as
many turns of them. -/
theorem others_ordered (language : Language) {schedule reordered : List Language}
    (permutation : schedule.Perm reordered) :
    schedule.filter (fun other => other != language) =
      reordered.filter (fun other => other != language) := by
  obtain ⟨second, only⟩ : ∃ second, ∀ other, (other != language) = true → other = second := by
    cases language with
    | go => exact ⟨.python, by intro other; cases other <;> simp⟩
    | python => exact ⟨.go, by intro other; cases other <;> simp⟩
  have alike : ∀ turns : List Language, turns.filter (fun other => other != language) =
      List.replicate (turns.filter fun other => other != language).length second :=
    fun turns => List.eq_replicate_of_mem fun other member =>
      only other (List.mem_filter.mp member).2
  rw [alike schedule, alike reordered, (permutation.filter _).length_eq]

/-- Schedules that begin with the same language and have the same turns behind run to the same.

Proof: if the session starts, the output root stands, and turns can be swapped. If it does not, its
sequence has stopped, and the turns of the other language are left, in their order. -/
theorem Sound.run_head (sound : stage.Sound config stage.disk.here) (waiting : stage.IsWaiting)
    (tree : stage.disk.IsTree) (first : Language) {schedule reordered : List Language}
    (permutation : schedule.Perm reordered) :
    (stage.run config (first :: schedule)).SameAs (stage.run config (first :: reordered)) := by
  have behind := sound.turn first
  have act := waiting.act config first stage.disk
  have own := turn_own config stage first
  have disk := turn_disk config stage first
  rw [act] at own disk
  cases outcome : (Session.start config first (stage.actor first).templates stage.disk).2 with
  | ok session =>
    have rooted : config.Rooted stage.disk.here (stage.turn config first).disk := by
      rw [disk]
      exact Session.start_rooted tree (Prod.ext rfl outcome)
    exact behind.run_perm rooted permutation
  | error failure =>
    have stopped : ((stage.turn config first).actor first).activity = .stopped := by
      rw [own, outcome]
      rfl
    rw [run_cons, run_cons, run_stopped stopped schedule, run_stopped stopped reordered,
      others_ordered first permutation]
    exact .refl _

/-- A start that does nothing to any disk and always has the same outcome can be swapped with
another turn. -/
theorem IsWaiting.swap_idle (waiting : stage.IsWaiting) (first second : Language)
    (different : second ≠ first) (outcome : Except Failure Session)
    (idle : ∀ disk, Session.start config first (stage.actor first).templates disk =
      (disk, outcome)) :
    (stage.turn config first).turn config second =
      (stage.turn config second).turn config first := by
  have act : ∀ disk, (stage.actor first).act config first disk =
      (disk, some (.start outcome)) := by
    intro disk
    rw [waiting.act config first disk, idle]
  apply Stage.ext
  · rw [turn_turn_disk _ _ _ _ different, turn_turn_disk _ _ _ _ (Ne.symm different), act, act]
  · exact turn_actors_swap config stage first second different (by rw [act, act]) (by rw [act])

/-- Two starts can be swapped if the way to the output root is blocked, because it is blocked for
the second of them at the same place. -/
theorem IsWaiting.swap_blocked (waiting : stage.IsWaiting) (tree : stage.disk.IsTree)
    (blocked : config.approach stage.disk.here stage.disk = (between, false))
    (first second : Language)
    (different : second ≠ first) (firstUsable : Disk.IsUsable (config.outputPath first))
    (secondUsable : Disk.IsUsable (config.outputPath second)) :
    (stage.turn config first).turn config second =
      (stage.turn config second).turn config first := by
  obtain ⟨treeBetween, grows⟩ := Disk.make_way_grows tree blocked
  have blockedAgain : config.approach between.here between = (between, false) := by
    rw [grows.here]
    exact Disk.make_way_again tree blocked
  have now : ∀ language, Disk.IsUsable (config.outputPath language) →
      (stage.actor language).act config language stage.disk =
        (between, some (.start (Session.verdict config language
          (stage.actor language).templates false))) := by
    intro language usable
    rw [waiting.act config, Session.start_blocked tree usable blocked]
  have again : ∀ language, Disk.IsUsable (config.outputPath language) →
      (stage.actor language).act config language between =
        (between, some (.start (Session.verdict config language
          (stage.actor language).templates false))) := by
    intro language usable
    rw [waiting.act config, Session.start_blocked treeBetween usable blockedAgain]
  apply Stage.ext
  · rw [turn_turn_disk _ _ _ _ different, turn_turn_disk _ _ _ _ (Ne.symm different),
      now first firstUsable, now second secondUsable, again first firstUsable,
      again second secondUsable]
  · apply turn_actors_swap config stage first second different
    · rw [now second secondUsable, again first firstUsable, now first firstUsable]
    · rw [now first firstUsable, again second secondUsable, now second secondUsable]

/-- If nothing can be left over, a schedule that begins with a start runs as if the way to the
output root had been made before. -/
theorem Sound.run_approached (sound : stage.Sound config stage.disk.here)
    (waiting : stage.IsWaiting)
    (tree : stage.disk.IsTree) (settled : config.Settled stage.disk)
    (reached : config.approach stage.disk.here stage.disk = (between, true)) (first : Language)
    (usable : Disk.IsUsable (config.outputPath first)) (schedule : List Language) :
    (stage.run config (first :: schedule)).SameAs
      ((⟨between, stage.actor⟩ : Stage).run config (first :: schedule)) := by
  have soundBetween : (⟨between, stage.actor⟩ : Stage).Sound config stage.disk.here :=
    ⟨sound.outside, sound.apart, sound.named, sound.ours⟩
  have rooted := Config.Rooted.of_approach tree reached
  obtain ⟨outcome, current, disks⟩ := Session.start_approached (stage.actor first).templates tree
    (sound.outside first) settled usable reached
  have same : ((⟨between, stage.actor⟩ : Stage).turn config first).SameAs
      (stage.turn config first) := by
    constructor
    case actors =>
      funext other
      by_cases itself : other = first
      · subst itself
        rw [turn_own, turn_own, waiting.act config, waiting.act config, outcome]
      · rw [turn_actor _ _ _ _ itself, turn_actor _ _ _ _ itself]
    case current =>
      rw [turn_disk, turn_disk, waiting.act config, waiting.act config]
      exact current.symm
    case disks =>
      intro location
      rw [turn_disk, turn_disk, waiting.act config, waiting.act config]
      exact (disks location).symm
  exact ((soundBetween.turn first).run_same (soundBetween.turn_rooted rooted first) same
    schedule).symm

/-- Two starts can be swapped if nothing can be left over.

Proof: the way to the output root is the same for both. If it is blocked, both fail. If not, both
start as if the way had been made before, and then the output root stands. -/
theorem Sound.swap_starts (sound : stage.Sound config stage.disk.here) (waiting : stage.IsWaiting)
    (tree : stage.disk.IsTree) (settled : config.Settled stage.disk) (first second : Language)
    (different : second ≠ first) (schedule : List Language) :
    (stage.run config (first :: second :: schedule)).SameAs
      (stage.run config (second :: first :: schedule)) := by
  -- Turns that lead to the very same stage can be swapped in front of any schedule.
  have exchanged : (stage.turn config first).turn config second =
      (stage.turn config second).turn config first →
      (stage.run config (first :: second :: schedule)).SameAs
        (stage.run config (second :: first :: schedule)) := by
    intro same
    rw [run_cons, run_cons, run_cons, run_cons, same]
    exact .refl _
  by_cases firstUsable : Disk.IsUsable (config.outputPath first)
  case neg =>
    exact exchanged (waiting.swap_idle first second different _
      fun disk => Session.start_unusable firstUsable)
  by_cases secondUsable : Disk.IsUsable (config.outputPath second)
  case neg =>
    exact exchanged (waiting.swap_idle second first (Ne.symm different) _
      fun disk => Session.start_unusable secondUsable).symm
  cases approached : config.approach stage.disk.here stage.disk with
  | mk between reached =>
    cases reached with
    | false =>
      exact exchanged (waiting.swap_blocked tree approached first second different firstUsable
        secondUsable)
    | true =>
      have soundBetween : (⟨between, stage.actor⟩ : Stage).Sound config stage.disk.here :=
        ⟨sound.outside, sound.apart, sound.named, sound.ours⟩
      have swapped := soundBetween.run_perm (Config.Rooted.of_approach tree approached)
        (List.Perm.swap second first schedule)
      have firstThen := sound.run_approached waiting tree settled approached first firstUsable
        (second :: schedule)
      have secondThen := sound.run_approached waiting tree settled approached second secondUsable
        (first :: schedule)
      exact firstThen.trans (swapped.trans secondThen.symm)

/-- A session that starts first also starts behind another one, if the order of the two makes no
difference. -/
theorem IsWaiting.starts_behind (waiting : stage.IsWaiting) (language other : Language)
    (different : other ≠ language) {otherAfter : Disk} {session otherSession : Session}
    (started : Session.start config language (stage.actor language).templates stage.disk =
      (after, .ok session))
    (otherStarted : Session.start config other (stage.actor other).templates stage.disk =
      (otherAfter, .ok otherSession))
    (agree : ((stage.turn config language).turn config other).SameAs
      ((stage.turn config other).turn config language)) :
    ∃ final behind, Session.start config language (stage.actor language).templates otherAfter =
      (final, .ok behind) := by
  have sequence := congrFun agree.actors language
  rw [turn_actor _ _ _ _ (Ne.symm different), turn_own, turn_own,
    turn_actor _ _ _ _ (Ne.symm different), turn_disk, waiting.act config language,
    waiting.act config language, waiting.act config other, started, otherStarted] at sequence
  cases outcome : Session.start config language (stage.actor language).templates otherAfter with
  | mk final result =>
    rw [outcome] at sequence
    cases result with
    | error failure =>
      have activity := congrArg Actor.activity sequence
      cases activity
    | ok behind => exact ⟨final, behind, rfl⟩

/-- The way to the output root begins below no output directory if sessions that could both start
leave the same in either order.

Proof: if it began below an output directory, the session of that directory would start only where
the directory cannot be found. Behind the other session the directory is found, and to remove it
removes the beginning of the way. -/
theorem IsWaiting.outside_of_swap (waiting : stage.IsWaiting) (tree : stage.disk.IsTree)
    (starts : ∀ language, ∃ after session, Session.start config language
      (stage.actor language).templates stage.disk = (after, .ok session))
    (same : ∀ first second, second ≠ first → (stage.run config [first, second]).SameAs
      (stage.run config [second, first])) (language : Language) :
    config.BeginsOutside stage.disk.here language := by
  intro rest lower inside
  obtain ⟨other, different⟩ := language.another
  obtain ⟨after, session, started⟩ := starts language
  obtain ⟨otherAfter, otherSession, otherStarted⟩ := starts other
  obtain ⟨final, behind, startedBehind⟩ :=
    waiting.starts_behind language other different started otherStarted
      (same language other different)
  have rooted := Session.start_rooted tree otherStarted
  have directory : otherAfter.node? (config.outputPlace stage.disk.here language) =
      some .directory := by
    apply rooted.tree.above _ rest lower
    rw [← inside, rooted.begins]
    simp
  have stands := (rooted.ready (Session.started_usable started) directory).reached
  rw [← rooted.current] at stands inside
  have lost := Session.start_lost (stage.actor language).templates rooted.tree stands rest lower
    inside
  rw [startedBehind] at lost
  cases lost

/-- Nothing can be left over if sessions that could both start leave the same in either order.

Proof: what cannot be found at first stays when the session of its directory starts first, and the
other session does not touch it. If the other session starts first, the output root stands then, and
the directory is found and cleared. -/
theorem Sound.settled_of_swap (sound : stage.Sound config stage.disk.here)
    (waiting : stage.IsWaiting) (tree : stage.disk.IsTree)
    (starts : ∀ language, ∃ after session, Session.start config language
      (stage.actor language).templates stage.disk = (after, .ok session))
    (same : ∀ first second, second ≠ first → (stage.run config [first, second]).SameAs
      (stage.run config [second, first])) : config.Settled stage.disk := by
  intro language _ missing rest lower unpassed
  obtain ⟨other, different⟩ := language.another
  obtain ⟨after, session, started⟩ := starts language
  obtain ⟨otherAfter, otherSession, otherStarted⟩ := starts other
  have inside : config.outputPlace stage.disk.here language <+:
      config.outputPlace stage.disk.here language ++ rest := List.prefix_append _ _
  have aside : ¬ Path.LeadsThrough stage.disk.here (config.outputPath language)
      (config.outputPlace stage.disk.here language ++ rest) := by
    rw [config.leads_through_iff, not_or]
    exact ⟨unpassed, by simpa using lower⟩
  have agree : ((stage.turn config language).turn config other).SameAs
      ((stage.turn config other).turn config language) := same language other different
  -- What the session of the directory leaves over, the other one does not touch.
  have left : ((stage.turn config language).turn config other).disk.node?
      (config.outputPlace stage.disk.here language ++ rest) =
        stage.disk.node? (config.outputPlace stage.disk.here language ++ rest) := by
    have stays := (sound.act_confined other).frame after (Session.start_rooted tree started)
      (config.outputPlace stage.disk.here language ++ rest)
      (config.sees_inside inside other different)
    rw [turn_turn_disk _ _ _ _ different, waiting.act config language, started, stays]
    exact Session.start_leaves tree missing started _ aside
  -- Behind the other one the session starts too, and clears the directory.
  have cleared : ((stage.turn config other).turn config language).disk.node?
      (config.outputPlace stage.disk.here language ++ rest) = none := by
    obtain ⟨final, behind, startedBehind⟩ :=
      waiting.starts_behind language other different started otherStarted agree
    rw [turn_turn_disk _ _ _ _ (Ne.symm different), waiting.act config other, otherStarted,
      waiting.act config language, startedBehind]
    exact Session.start_clears (Session.start_rooted tree otherStarted) (sound.outside language)
      startedBehind _ inside aside
  exact left.symm.trans ((agree.disks _).trans cleared)

/-- Whether a schedule has a turn for the start and a turn for each call of every language. -/
def IsSchedule (stage : Stage) (schedule : List Language) : Prop :=
  ∀ language, schedule.count language = (stage.actor language).calls.length + 1

/-- The schedule in which one language has all its turns before another one. -/
def inOrder (stage : Stage) (first second : Language) : List Language :=
  List.replicate ((stage.actor first).calls.length + 1) first ++
    List.replicate ((stage.actor second).calls.length + 1) second

/-- Every schedule has the turns of two languages in another order. -/
theorem IsSchedule.perm {schedule : List Language} (complete : stage.IsSchedule schedule)
    (first second : Language) (different : second ≠ first) :
    schedule.Perm (stage.inOrder first second) := by
  rw [List.perm_iff_count]
  intro language
  have both : language = first ∨ language = second := by
    cases language <;> cases first <;> cases second <;> simp at different ⊢
  rw [complete language, inOrder, List.count_append, List.count_replicate, List.count_replicate]
  rcases both with rfl | rfl
  · simp [different]
  · simp [Ne.symm different]

/-- A schedule runs to the same as the sequences one after the other, that of the language that
begins first. -/
theorem Sound.run_serial (sound : stage.Sound config stage.disk.here) (waiting : stage.IsWaiting)
    (tree : stage.disk.IsTree) {schedule : List Language} (complete : stage.IsSchedule schedule)
    (first second : Language) (different : second ≠ first)
    (begins : schedule.head? = some first) :
    (stage.run config schedule).SameAs (stage.run config (stage.inOrder first second)) := by
  obtain ⟨turns, rfl⟩ := List.head?_eq_some_iff.mp begins
  have permutation := complete.perm first second different
  rw [inOrder, List.replicate_succ, List.cons_append] at permutation ⊢
  exact sound.run_head waiting tree first permutation.cons_inv

/-- If nothing can be left over, the sequences one after the other run to the same in either
order. -/
theorem Sound.swap_serial (sound : stage.Sound config stage.disk.here) (waiting : stage.IsWaiting)
    (tree : stage.disk.IsTree) (settled : config.Settled stage.disk) (first second : Language)
    (different : second ≠ first) :
    (stage.run config (stage.inOrder first second)).SameAs
      (stage.run config (stage.inOrder second first)) := by
  rw [inOrder, inOrder, List.replicate_succ, List.replicate_succ, List.cons_append,
    List.cons_append]
  -- The second start is brought to the front, swapped with the first, and the rest is reordered.
  have firstTurns : (List.replicate (stage.actor first).calls.length first ++
        second :: List.replicate (stage.actor second).calls.length second).Perm
      (second :: (List.replicate (stage.actor first).calls.length first ++
        List.replicate (stage.actor second).calls.length second)) :=
    List.perm_middle
  have secondTurns : (first :: (List.replicate (stage.actor first).calls.length first ++
        List.replicate (stage.actor second).calls.length second)).Perm
      (List.replicate (stage.actor second).calls.length second ++
        first :: List.replicate (stage.actor first).calls.length first) :=
    (List.perm_append_comm.cons first).trans List.perm_middle.symm
  have swapped := sound.swap_starts waiting tree settled first second different
    (List.replicate (stage.actor first).calls.length first ++
      List.replicate (stage.actor second).calls.length second)
  exact (sound.run_head waiting tree first firstTurns).trans
    (swapped.trans (sound.run_head waiting tree second secondTurns))

end Stage

/-- What is true of sessions of different languages that do not interfere. -/
structure Independent (config : Config) (stage : Stage) (schedule : List Language) : Prop where
  /-- Interleaved sequences run to the same as the sequences one after the other, that of the
  language first that begins, if the way to the output root begins below no output directory. -/
  serial : (∀ language, config.BeginsOutside stage.disk.here language) →
    ∀ first second, second ≠ first → schedule.head? = some first →
      (stage.run config schedule).SameAs (stage.run config (stage.inOrder first second))
  /-- If nothing can be left over, which of them is first makes no difference. -/
  either : (∀ language, config.BeginsOutside stage.disk.here language) →
    config.Settled stage.disk → ∀ first second, second ≠ first →
      (stage.run config schedule).SameAs (stage.run config (stage.inOrder first second))
  /-- If both sessions could start at once, the order of their starts makes no difference exactly if
  the way to the output root begins below no output directory and nothing can be left over. -/
  decisive : (∀ language, ∃ after session, Session.start config language
      (stage.actor language).templates stage.disk = (after, .ok session)) →
    ((∀ first second, second ≠ first → (stage.run config [first, second]).SameAs
      (stage.run config [second, first])) ↔
        (∀ language, config.BeginsOutside stage.disk.here language) ∧ config.Settled stage.disk)
  /-- If no two dots are behind a name in the output root, the way to it begins below no output
  directory, and nothing can be left over. -/
  plain : ".." ∉ Path.route config.outputRoot →
    (∀ language, config.BeginsOutside stage.disk.here language) ∧ config.Settled stage.disk

/-- Sessions of different languages do not interfere. Each of them is started and then asked to
write messages that are named by identifiers, or managers, until something fails; templates are not
looked for in the output directory of the other language. Then every interleaving gives back the
same and leaves the same disk as one session after the other; and in either order, unless something
can be left over. Only if the way to the output root begins below an output directory is all this
not so.

Proof: behind the first turn, schedules can be reordered. If the schedule begins with the wrong
language, its first turn and the start of the other language can be swapped. -/
theorem sessions_independent (config : Config) (disk : Disk) (tree : disk.IsTree)
    (templates : Language → TemplateSource) (calls : Language → List Call)
    (apart : ∀ language, (templates language).IsApart config disk.here language)
    (named : ∀ language, ∀ call ∈ calls language, call.IsNamed) (schedule : List Language)
    (complete : (Stage.initial disk templates calls).IsSchedule schedule) :
    Independent config (Stage.initial disk templates calls) schedule := by
  have waiting : (Stage.initial disk templates calls).IsWaiting := fun _ => rfl
  have sound : (∀ language, config.BeginsOutside disk.here language) →
      (Stage.initial disk templates calls).Sound config disk.here :=
    fun outside => ⟨outside, apart, named, fun _ _ running => by cases running⟩
  have serial := fun outside => (sound outside).run_serial waiting tree complete
  constructor
  case serial => exact serial
  case either =>
    intro outside settled first second different
    have inhabited : schedule ≠ [] := by
      rintro rfl
      have turns := complete first
      simp at turns
    obtain ⟨language, turns, rfl⟩ := List.exists_cons_of_ne_nil inhabited
    by_cases begins : language = first
    · exact serial outside first second different (congrArg some begins)
    · have other : language = second := by
        cases language <;> cases first <;> cases second <;> simp at begins different ⊢
      have swapped :=
        (sound outside).swap_serial waiting tree settled second first (Ne.symm different)
      exact (serial outside second first (Ne.symm different) (congrArg some other)).trans swapped
  case decisive =>
    intro starts
    constructor
    · intro same
      have outside := waiting.outside_of_swap tree starts same
      exact ⟨outside, (sound outside).settled_of_swap waiting tree starts same⟩
    · exact fun ⟨outside, settled⟩ first second different =>
        (sound outside).swap_starts waiting tree settled first second different []
  case plain =>
    exact fun plain => ⟨config.begins_plain disk.here plain, config.settled_plain tree plain⟩

/-- A disk on which an output directory next to the current directory is left from an earlier
run. -/
def sharedDisk : Disk where
  entries := [(["w"], .directory), (["goProtocol"], .directory),
    (["goProtocol", "Old.go"], .file (.text "old"))]
  here := ["w"]

/-- A configuration for both languages, for an output root. -/
def sharedConfig (root : String) : Config :=
  ⟨root, ⟨true, true⟩, none⟩

/-- The templates of one language are in a directory, those of the other are bundled. -/
def sharedTemplates : Language → TemplateSource
  | .go => .directory "t"
  | .python => .bundled

/-- What the sessions are asked to do: one writes a message and a manager, the other a message. -/
def sharedCalls : Language → List Call
  | .go => [.message { id := 1, name := "ping", docs := [], fields := [] }, .manager [none]]
  | .python => [.message { id := 1, name := "ping", docs := [], fields := [] }]

/-- Sessions that take turns, in an output root above the current directory that is made by the
first of them. -/
theorem sessions_independent_shared :
    sharedDisk.IsTree ∧
    ".." ∉ Path.route (sharedConfig "../out").outputRoot ∧
    (∀ language, (sharedTemplates language).IsApart (sharedConfig "../out") sharedDisk.here
      language) ∧
    (∀ language, ∀ call ∈ sharedCalls language, call.IsNamed) ∧
    (Stage.initial sharedDisk sharedTemplates sharedCalls).IsSchedule
      [.go, .python, .go, .python, .go] ∧
    Independent (sharedConfig "../out") (Stage.initial sharedDisk sharedTemplates sharedCalls)
      [.go, .python, .go, .python, .go] := by
  have tree : sharedDisk.IsTree := Disk.tree_of_entries sharedDisk (by decide)
  have apart : ∀ language,
      (sharedTemplates language).IsApart (sharedConfig "../out") sharedDisk.here language := by
    intro language
    cases language with
    | go =>
      exact TemplateSource.apart_plain (sharedConfig "../out") sharedDisk.here .go "t" (by decide)
        (by decide)
    | python => trivial
  have named : ∀ language, ∀ call ∈ sharedCalls language, call.IsNamed := by
    intro language
    cases language <;> simp only [sharedCalls, List.forall_mem_cons] <;>
      simp [Call.IsNamed] <;> decide
  have complete : (Stage.initial sharedDisk sharedTemplates sharedCalls).IsSchedule
      [.go, .python, .go, .python, .go] := by
    intro language
    cases language <;> rfl
  exact ⟨tree, by decide, apart, named, complete, sessions_independent (sharedConfig "../out")
    sharedDisk tree sharedTemplates sharedCalls apart named _ complete⟩

/-- A file from an earlier run is left over if the session of its directory starts first, where
something on the path of the output root is missing at first, and cleared if it starts second. -/
example :
    ((Stage.initial sharedDisk sharedTemplates sharedCalls).run (sharedConfig "../a/..")
      [.go, .python]).disk.node? ["goProtocol", "Old.go"] = some (.file (.text "old")) ∧
    ((Stage.initial sharedDisk sharedTemplates sharedCalls).run (sharedConfig "../a/..")
      [.python, .go]).disk.node? ["goProtocol", "Old.go"] = none := by
  decide +kernel

end PacketSmith
