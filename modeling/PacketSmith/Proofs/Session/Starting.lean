import PacketSmith.Proofs.Disk.Making
import PacketSmith.Proofs.Session

/-!
# How sessions start

A session that starts goes to the output root first, where it makes what is missing on the way, and
makes its output directory anew from there. The way to the output root is the same for every
language. If it is blocked, or a file is in the place of the output directory, the start fails and
nothing but the directories on the way is new. Otherwise the output directory is empty but for
what lies on its path, unless something on the path was missing and the directory held something:
only then does it matter what was there before the way was made. All this is so if the way does not
begin in the output directory itself, where the start would remove its beginning.
-/

namespace PacketSmith
namespace Config

/-- The way to the output root: the disk with what is missing on it made, and whether the output
root is reached. -/
def approach (config : Config) (here : Location) (disk : Disk) : Disk × Bool :=
  disk.makeWay (Path.start here config.outputRoot) (Path.way config.outputRoot)

/-- Whether the way to the output root passes a location. -/
def Passes (config : Config) (here location : Location) : Prop :=
  Path.Passes (Path.start here config.outputRoot) (Path.way config.outputRoot) location

/-- Whether the way to the output root does not begin below the output directory of a language. -/
def BeginsOutside (config : Config) (here : Location) (language : Language) : Prop :=
  ∀ rest, rest ≠ [] → Path.start here config.outputRoot ≠ config.outputPlace here language ++ rest

/-- The session of a language, with templates from anywhere. -/
abbrev sessionFrom (config : Config) (language : Language) (templates : TemplateSource) :
    Session :=
  ⟨language, templates, config.outputPath language⟩

/-- The path of an output directory ends in a name. -/
theorem output_ended (config : Config) (language : Language) :
    Path.IsEnded (config.outputPath language) :=
  ⟨_, _, config.output_segments language, (directory_step language).something⟩

/-- The way to the output root passes where it begins. -/
theorem passes_start (config : Config) (here : Location) :
    config.Passes here (Path.start here config.outputRoot) :=
  ⟨[], List.nil_prefix, rfl⟩

/-- The path of an output directory leads through the places on the way to the output root and to
the directory. -/
theorem leads_through_iff (config : Config) (here : Location) (language : Language)
    (location : Location) :
    Path.LeadsThrough here (config.outputPath language) location ↔
      config.Passes here location ∨ location = config.outputPlace here language := by
  have ends := Path.leads_through_end here (config.outputPath language)
  rw [Path.LeadsThrough, config.output_start, config.output_route]
  constructor
  · rintro ⟨front, beginning, rfl⟩
    rw [List.prefix_concat_iff] at beginning
    rcases beginning with rfl | within
    · right
      rw [outputPlace, Path.location, config.output_start, config.output_route]
    · left
      exact ⟨front, within, rfl⟩
  · rintro (⟨front, within, rfl⟩ | rfl)
    · exact ⟨front, within.trans (List.prefix_append _ _), rfl⟩
    · rwa [Path.LeadsThrough, config.output_start, config.output_route] at ends

/-- A way to the output root on which no two dots are behind a name begins above all output
directories. -/
theorem begins_plain (config : Config) (here : Location)
    (plain : ".." ∉ Path.route config.outputRoot) (language : Language) :
    config.BeginsOutside here language := by
  intro rest lower inside
  have above := Path.leads_through_plain here config.outputRoot plain
    (Path.start here config.outputRoot) ⟨[], List.nil_prefix, rfl⟩
  have shorter := above.length_le
  rw [inside, config.output_place] at shorter
  have inhabited := List.length_pos_iff.mpr lower
  simp only [List.length_append, List.length_singleton] at shorter
  omega

/-- The way to an output directory: it goes on from the output root. -/
def makeOutput (config : Config) (here : Location) (language : Language) (disk : Disk) :
    Disk × Bool :=
  disk.makeWay (Path.start here (config.outputPath language))
    (Path.route (config.outputPath language))

/-- The way to an output directory goes on from the output root. -/
theorem output_along (config : Config) (here : Location) (language : Language) (disk : Disk) :
    config.makeOutput here language disk =
      match config.approach here disk with
      | (between, true) => between.makeAlong (Path.location here config.outputRoot)
          [language.layout.directory]
      | (between, false) => (between, false) := by
  rw [makeOutput, config.output_start, config.output_route, Disk.make_way_append, Path.walk_way]
  rfl

end Config

namespace Session

variable {config : Config} {language : Language} {templates : TemplateSource}
variable {disk between after : Disk}

/-- What a session that starts is told, from whether its directory has been made. -/
def verdict (config : Config) (language : Language) (templates : TemplateSource) :
    Bool → Except Failure Session
  | true => .ok (config.sessionFrom language templates)
  | false => .error (.outputDirectory (config.outputPath language) language)

/-- A session that cannot clear its directory does not start. -/
theorem start_uncleared (fault : Fault)
    (first : clearDirectory disk (config.outputPath language) = .error fault) :
    start config language templates disk = (disk, verdict config language templates false) := by
  rw [start_steps, first]
  rfl

/-- A session that has cleared its directory starts if the directory is made. -/
theorem start_cleared (cleared : Disk)
    (first : clearDirectory disk (config.outputPath language) = .ok cleared) :
    start config language templates disk =
      ((Disk.outcome (cleared.makeDirectories (config.outputPath language))).1,
        verdict config language templates
          (Disk.outcome (cleared.makeDirectories (config.outputPath language))).2) := by
  rw [start_steps, first]
  dsimp only
  cases cleared.makeDirectories (config.outputPath language) with
  | mk made outcome => cases outcome <;> rfl

/-- A session whose path cannot be looked up does not start. -/
theorem start_unusable (unusable : ¬ Disk.IsUsable (config.outputPath language)) :
    start config language templates disk = (disk, verdict config language templates false) := by
  refine start_uncleared .unusable ?_
  rw [clear_directory_resolve,
    disk.resolve_unusable _ unusable (config.output_inhabited language)]

/-- The path of a session that has started can be looked up. -/
theorem started_usable {session : Session}
    (started : start config language templates disk = (after, .ok session)) :
    Disk.IsUsable (config.outputPath language) := by
  by_contra unusable
  rw [start_unusable unusable] at started
  cases started

/-- A session that has cleared its directory starts if the end of the way to it is reached. -/
theorem start_makes (templates : TemplateSource) {cleared : Disk} (tree : cleared.IsTree)
    (usable : Disk.IsUsable (config.outputPath language))
    (first : clearDirectory disk (config.outputPath language) = .ok cleared) :
    start config language templates disk =
      ((config.makeOutput cleared.here language cleared).1,
        verdict config language templates (config.makeOutput cleared.here language cleared).2) := by
  have made := Disk.make_directories_along tree _ usable (config.output_ended language)
  rw [start_cleared cleared first, made]
  rfl

/-- Where nothing is missing on the path of an output directory, the way to it makes the directory
at most. -/
theorem made_at (disk : Disk) (usable : Disk.IsUsable (config.outputPath language))
    (found : disk.resolve (config.outputPath language) ≠ .error .missing) :
    disk.madeAt (disk.resolve (config.outputPath language)) =
      config.makeOutput disk.here language disk := by
  by_cases stands : disk.HasStart (config.outputPath language)
  · rw [usable.resolve stands] at found ⊢
    rw [Config.makeOutput, Disk.make_way_from _ stands, Disk.make_along_follow _ _ _ found]
  · exact absurd (usable.astray stands) found

/-- A session whose directory does not stand makes it along its path, if nothing is in the way. -/
theorem start_along (tree : disk.IsTree) (usable : Disk.IsUsable (config.outputPath language))
    (absent : ∀ location,
      disk.resolve (config.outputPath language) ≠ .ok (.directory location)) :
    start config language templates disk =
      ((config.makeOutput disk.here language disk).1,
        verdict config language templates (config.makeOutput disk.here language disk).2) := by
  -- Where the path leads to a file or cannot be followed, the way to it is blocked.
  have blocked := made_at disk usable
  cases resolved : disk.resolve (config.outputPath language) with
  | error fault =>
    cases fault with
    | missing => exact start_makes templates tree usable (by rw [clear_directory_resolve, resolved])
    | unusable =>
      rw [start_uncleared .unusable (by rw [clear_directory_resolve, resolved]),
        ← blocked (by simp [resolved]), resolved]
      rfl
  | ok destination =>
    cases destination with
    | directory location => exact absurd resolved (absent location)
    | file location content =>
      rw [start_uncleared .unusable (by rw [clear_directory_resolve, resolved]),
        ← blocked (by simp [resolved]), resolved]
      rfl
    | free location onlyDirectory =>
      exact start_makes templates tree usable (by rw [clear_directory_resolve, resolved])

/-- A session that has started where its directory did not stand has made it along its path. -/
theorem started_along (tree : disk.IsTree) {session : Session}
    (started : start config language templates disk = (after, .ok session))
    (absent : ∀ location,
      disk.resolve (config.outputPath language) ≠ .ok (.directory location)) :
    config.makeOutput disk.here language disk = (after, true) := by
  rw [start_along tree (started_usable started) absent] at started
  cases made : config.makeOutput disk.here language disk with
  | mk between reached =>
    rw [made] at started
    cases reached with
    | false => cases started
    | true =>
      cases started
      rfl

/-- Where the path of an output directory leads to a directory, there is nothing to be made on the
way to the output root. -/
theorem approach_stands (location : Location)
    (stands : disk.resolve (config.outputPath language) = .ok (.directory location)) :
    config.approach disk.here disk = (disk, true) := by
  obtain ⟨_, begins, leads⟩ := (disk.resolve_iff _ _).mp stands
  rw [Disk.HasStart, config.output_start] at begins
  rw [config.output_start, config.output_route] at leads
  exact Disk.make_way_leads begins (leads.front _ _)

/-- A session does not start if the way to the output root is blocked. -/
theorem start_blocked (tree : disk.IsTree) (usable : Disk.IsUsable (config.outputPath language))
    (blocked : config.approach disk.here disk = (between, false)) :
    start config language templates disk = (between, verdict config language templates false) := by
  have absent : ∀ location,
      disk.resolve (config.outputPath language) ≠ .ok (.directory location) := by
    intro location stands
    rw [approach_stands location stands] at blocked
    cases blocked
  rw [start_along tree usable absent, config.output_along, blocked]

/-- A session does not start if a file is in the place of the output directory. -/
theorem start_occupied (tree : disk.IsTree) (usable : Disk.IsUsable (config.outputPath language))
    (reached : config.approach disk.here disk = (between, true)) (content : Content)
    (occupied : between.node? (config.outputPlace disk.here language) = some (.file content)) :
    start config language templates disk = (between, verdict config language templates false) := by
  have absent : ∀ location,
      disk.resolve (config.outputPath language) ≠ .ok (.directory location) := by
    intro location stands
    rw [approach_stands location stands] at reached
    cases reached
    have there : disk.node? location = some .directory := Disk.resolve_stands tree _ _ stands
    obtain rfl : location = config.outputPlace disk.here language :=
      disk.resolve_location _ _ stands
    rw [occupied] at there
    cases there
  rw [start_along tree usable absent, config.output_along, reached]
  dsimp only
  rw [Disk.make_along_step _ _ _ _ (Config.directory_step language), ← config.output_place,
    occupied]

/-- What is true of a disk on which a session has started, after the way to the output root was
made. -/
structure Opened (config : Config) (here : Location) (language : Language)
    (between after : Disk) : Prop where
  /-- The disk is a tree. -/
  tree : after.IsTree
  /-- The current directory is the given one. -/
  current : after.here = here
  /-- On the path of the output directory there are directories. -/
  way : ∀ location, Path.LeadsThrough here (config.outputPath language) location →
    after.node? location = some .directory
  /-- Nothing else is in the output directory. -/
  inside : ∀ location, config.outputPlace here language <+: location →
    ¬ Path.LeadsThrough here (config.outputPath language) location → after.node? location = none
  /-- Nothing else has changed. -/
  elsewhere : ∀ location, ¬ config.outputPlace here language <+: location →
    after.node? location = between.node? location

/-- A path that begins in its own output directory leads through something in it, and nowhere once
that is gone. -/
theorem emptied_lost (itself : Path.start disk.here (config.outputPath language) =
      config.outputPlace disk.here language) (destination : Destination) :
    (disk.dropInside (config.outputPlace disk.here language)).resolve
      (config.outputPath language) ≠ .ok destination := by
  intro found
  have place := Disk.resolve_location _ _ _ found
  have leads := ((Disk.resolve_iff _ _ _).mp found).leads
  have descends : Path.route (config.outputPath language) ≠ [] := by
    simp [config.output_route]
  obtain ⟨first, others, parts⟩ := List.exists_cons_of_ne_nil descends
  have bare : ∀ name, (disk.dropInside (config.outputPlace disk.here language)).node?
      (Path.start disk.here (config.outputPath language) ++ [name]) = none := by
    intro name
    rw [Disk.node_drop_inside, itself, if_pos ⟨List.prefix_append _ _, by simp⟩]
  rw [parts] at leads
  exact leads.leaves (Path.route_descends _ _ _ parts) bare (place.trans itself.symm)

/-- Where the way to the output root begins, a directory stands after the output directory has been
removed, unless it is below that.

Proof: only if the way begins in the output directory itself is there something to show. The path of
the output directory does not lead to it any more then when what is in it is gone, so that the
directory stays. -/
theorem removed_begins (outside : config.BeginsOutside disk.here language)
    (stands : disk.resolve (config.outputPath language) =
      .ok (.directory (config.outputPlace disk.here language))) :
    (disk.removed (config.outputPath language) (config.outputPlace disk.here language)).node?
      (Path.start disk.here (config.outputPath language)) = some .directory := by
  have lower := config.output_lower disk.here language
  have begins := ((disk.resolve_iff _ _).mp stands).stands
  rw [Disk.HasStart] at begins
  by_cases itself : Path.start disk.here (config.outputPath language) =
      config.outputPlace disk.here language
  · rw [Disk.removed]
    split
    · rename_i destination found
      exact absurd found (emptied_lost itself destination)
    · rw [Disk.node_drop_inside, if_neg (by simp [itself]), begins]
  · rw [disk.node_removed _ _ _ lower itself, if_neg, begins]
    rintro ⟨rest, inside⟩
    rw [config.output_start] at inside itself
    by_cases same : rest = []
    · exact itself (by rw [← inside, same, List.append_nil])
    · exact outside rest same inside.symm

/-- A session whose directory stands makes it anew, if the way to it does not begin below it. -/
theorem start_anew (templates : TemplateSource) (tree : disk.IsTree)
    (outside : config.BeginsOutside disk.here language)
    (stands : disk.resolve (config.outputPath language) =
      .ok (.directory (config.outputPlace disk.here language))) :
    ∃ after, start config language templates disk =
        (after, verdict config language templates true) ∧
      config.makeOutput disk.here language
        (disk.removed (config.outputPath language) (config.outputPlace disk.here language)) =
          (after, true) := by
  have lower := config.output_lower disk.here language
  obtain ⟨usable, _, leads⟩ := (disk.resolve_iff _ _).mp stands
  have begins := removed_begins outside stands
  have succeeds : (config.makeOutput disk.here language
      (disk.removed (config.outputPath language) (config.outputPlace disk.here language))).2 =
        true := by
    rw [Config.makeOutput, Disk.make_way_from _ begins]
    exact Disk.make_along_over leads fun other there =>
      (disk.node_removed_or _ _ other lower).imp (fun same => same.trans there) id
  have makes := start_makes templates (tree.removed _ _ lower) usable
    (by rw [clear_directory_resolve, stands])
  rw [disk.removed_here, succeeds] at makes
  exact ⟨_, makes, Prod.ext rfl succeeds⟩

/-- A session whose directory stands does not start if the way to it begins below it. -/
theorem start_lost (templates : TemplateSource) (tree : disk.IsTree)
    (stands : disk.resolve (config.outputPath language) =
      .ok (.directory (config.outputPlace disk.here language)))
    (rest : Location) (lower : rest ≠ [])
    (inside : Path.start disk.here config.outputRoot =
      config.outputPlace disk.here language ++ rest) :
    (start config language templates disk).2 = verdict config language templates false := by
  have usable := ((disk.resolve_iff _ _).mp stands).usable
  have gone : ¬ (disk.removed (config.outputPath language)
      (config.outputPlace disk.here language)).node?
        (Path.start disk.here (config.outputPath language)) = some .directory := by
    rw [config.output_start, inside, disk.node_removed _ _ _ (config.output_lower _ _)
      (by simpa using lower), if_pos (List.prefix_append _ _)]
    simp
  rw [start_makes _ (tree.removed _ _ (config.output_lower _ _)) usable
    (by rw [clear_directory_resolve, stands]), disk.removed_here, Config.makeOutput,
    Disk.make_way_astray _ gone]

/-- A directory that is made anew has nothing in it but what lies on its path. -/
theorem Opened.of_anew (tree : disk.IsTree)
    (stands : disk.resolve (config.outputPath language) =
      .ok (.directory (config.outputPlace disk.here language)))
    (made : config.makeOutput disk.here language
      (disk.removed (config.outputPath language) (config.outputPlace disk.here language)) =
        (after, true)) :
    Opened config disk.here language disk after := by
  have lower := config.output_lower disk.here language
  have treeRemoved := tree.removed (config.outputPath language) _ lower
  have node := Disk.make_way_node treeRemoved made
  obtain ⟨treeAfter, grows⟩ := Disk.make_way_grows treeRemoved made
  constructor
  case tree => exact treeAfter
  case current => exact grows.here.trans (disk.removed_here _ _)
  case way => exact fun location through => (node location).1 through
  case inside =>
    intro location inside aside
    have different : location ≠ config.outputPlace disk.here language := by
      rintro rfl
      exact aside (Path.leads_through_end _ _)
    rw [(node location).2 aside, disk.node_removed _ _ _ lower different, if_pos inside]
  case elsewhere =>
    intro location elsewhere
    have different : location ≠ config.outputPlace disk.here language := by
      rintro rfl
      exact elsewhere List.prefix_rfl
    by_cases through : Path.LeadsThrough disk.here (config.outputPath language) location
    · rw [(node location).1 through,
        Disk.leads_through_directories tree _ _ location stands through]
    · rw [(node location).2 through, disk.node_removed _ _ _ lower different, if_neg elsewhere]

/-- A directory that is put at the end of the way to it has nothing in it but what lies on its path,
if nothing else was below its place. -/
theorem Opened.of_way (tree : disk.IsTree)
    (reached : config.approach disk.here disk = (between, true))
    (made : config.makeOutput disk.here language disk = (after, true))
    (vacant : ∀ rest, rest ≠ [] →
      ¬ config.Passes disk.here (config.outputPlace disk.here language ++ rest) →
      disk.node? (config.outputPlace disk.here language ++ rest) = none) :
    Opened config disk.here language between after := by
  have node := Disk.make_way_node tree made
  have nodeBetween := Disk.make_way_node tree reached
  obtain ⟨treeAfter, grows⟩ := Disk.make_way_grows tree made
  constructor
  case tree => exact treeAfter
  case current => exact grows.here
  case way => exact fun location through => (node location).1 through
  case inside =>
    rintro _ ⟨rest, rfl⟩ aside
    have lower : rest ≠ [] := by
      rintro rfl
      exact aside ((config.leads_through_iff _ _ _).mpr (Or.inr (by simp)))
    have unpassed : ¬ config.Passes disk.here (config.outputPlace disk.here language ++ rest) :=
      fun passes => aside ((config.leads_through_iff _ _ _).mpr (Or.inl passes))
    rw [(node _).2 aside, vacant rest lower unpassed]
  case elsewhere =>
    intro location elsewhere
    have different : location ≠ config.outputPlace disk.here language := by
      rintro rfl
      exact elsewhere List.prefix_rfl
    by_cases through : Path.LeadsThrough disk.here (config.outputPath language) location
    · have passes := ((config.leads_through_iff _ _ _).mp through).resolve_right different
      rw [(node location).1 through, (nodeBetween location).1 passes]
    · have aside : ¬ config.Passes disk.here location := fun passes =>
        through ((config.leads_through_iff _ _ _).mpr (Or.inl passes))
      rw [(node location).2 through, (nodeBetween location).2 aside]

/-- Where an output directory can be made and nothing is missing on its path, the directory is all
that has to be made, and nothing is below its place. -/
theorem vacant_made (tree : disk.IsTree) (usable : Disk.IsUsable (config.outputPath language))
    (absent : ∀ location, disk.resolve (config.outputPath language) ≠ .ok (.directory location))
    (found : disk.resolve (config.outputPath language) ≠ .error .missing)
    (succeeds : (config.makeOutput disk.here language disk).2 = true) (rest : Location)
    (lower : rest ≠ []) : disk.node? (config.outputPlace disk.here language ++ rest) = none := by
  rw [← made_at _ usable found] at succeeds
  cases resolved : disk.resolve (config.outputPath language) with
  | error fault => simp [resolved, Disk.madeAt] at succeeds
  | ok destination =>
    have place := disk.resolve_location _ _ resolved
    have there := Disk.resolve_stands tree _ _ resolved
    cases destination with
    | directory location => exact absurd resolved (absent location)
    | file location content => simp [resolved, Disk.madeAt] at succeeds
    | free location onlyDirectory =>
      obtain rfl : location = config.outputPlace disk.here language := place
      exact tree.below _ rest lower (by simp [there.1])

/-- A session starts if the output root is reached and no file is in the place of the output
directory, and leaves nothing in it if nothing can have been left over.

Proof: if the directory stands, it is removed, and the way to it is gone once more, which succeeds
because only directories are gone from it. Otherwise the directory is put at the end of the way,
and nothing is in it: nothing is below what is no directory, and where something was missing on the
way, nothing was left over. -/
theorem start_opened (templates : TemplateSource) (tree : disk.IsTree)
    (usable : Disk.IsUsable (config.outputPath language))
    (outside : config.BeginsOutside disk.here language)
    (reached : config.approach disk.here disk = (between, true))
    (unoccupied : ∀ content,
      between.node? (config.outputPlace disk.here language) ≠ some (.file content))
    (settled : disk.resolve (config.outputPath language) = .error .missing →
      ∀ rest, rest ≠ [] →
        ¬ config.Passes disk.here (config.outputPlace disk.here language ++ rest) →
        disk.node? (config.outputPlace disk.here language ++ rest) = none) :
    ∃ after, start config language templates disk =
        (after, verdict config language templates true) ∧
      Opened config disk.here language between after := by
  by_cases stands : disk.resolve (config.outputPath language) =
      .ok (.directory (config.outputPlace disk.here language))
  · have approached := approach_stands _ stands
    rw [reached] at approached
    cases approached
    obtain ⟨after, started, made⟩ := start_anew templates tree outside stands
    exact ⟨after, started, Opened.of_anew tree stands made⟩
  · have absent : ∀ location,
        disk.resolve (config.outputPath language) ≠ .ok (.directory location) := by
      intro location there
      obtain rfl : location = config.outputPlace disk.here language :=
        disk.resolve_location _ _ there
      exact stands there
    have succeeds : (config.makeOutput disk.here language disk).2 = true := by
      rw [config.output_along, reached]
      dsimp only
      rw [Disk.make_along_step _ _ _ _ (Config.directory_step language), ← config.output_place]
      split
      · rfl
      · rename_i content occupied
        exact absurd occupied (unoccupied content)
      · rfl
    refine ⟨_, ?_, Opened.of_way tree reached (Prod.ext rfl succeeds) ?_⟩
    · rw [start_along tree usable absent, succeeds]
    · intro rest lower unpassed
      by_cases missing : disk.resolve (config.outputPath language) = .error .missing
      · exact settled missing rest lower unpassed
      · exact vacant_made tree usable absent missing succeeds rest lower

end Session
end PacketSmith
