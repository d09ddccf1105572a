import PacketSmith.Proofs.Output
import PacketSmith.Proofs.Session.Starting

/-!
# What a session changes and looks at

Once the output root stands, a session owns what is in its output directory, but for the places
that the way to the output root passes: these are directories and stay directories. A step of a
session is confined: it changes nothing but what the session owns, and neither its outcome nor
what it leaves depends on what other sessions own. Starts are confined, and so are the writing of
messages and of managers, provided that the templates are not looked for in the output directory
of another language. Confined steps follow each other to confined steps.
-/

namespace PacketSmith

/-- Whether two disks have the same at some places. -/
def Disk.Agrees (places : Location → Prop) (disk twin : Disk) : Prop :=
  ∀ location, places location → disk.node? location = twin.node? location

namespace Config

/-- Whether a location belongs to the session of a language. -/
def Owns (config : Config) (here : Location) (language : Language) (location : Location) : Prop :=
  config.outputPlace here language <+: location ∧ ¬ config.Passes here location

/-- Whether a location belongs to no session of another language. -/
def Sees (config : Config) (here : Location) (language : Language) (location : Location) : Prop :=
  ∀ other, other ≠ language → ¬ config.Owns here other location

section Places

variable {config : Config} {here : Location} {language other : Language} {location : Location}

/-- What is in an output directory belongs to no other session. -/
theorem sees_inside (inside : config.outputPlace here language <+: location) :
    config.Sees here language location :=
  fun _ different owned => output_apart different location inside owned.1

/-- What lies on the path of an output directory belongs to no other session. -/
theorem sees_through (through : Path.LeadsThrough here (config.outputPath language) location) :
    config.Sees here language location := by
  rcases (config.leads_through_iff here language location).mp through with passes | rfl
  · exact fun _ _ owned => owned.2 passes
  · exact sees_inside List.prefix_rfl

/-- What one session owns another does not. -/
theorem Owns.apart (owned : config.Owns here language location) (different : other ≠ language) :
    ¬ config.Owns here other location :=
  sees_inside owned.1 other different

end Places

namespace Rooted

variable {config : Config} {here : Location} {language : Language} {disk after : Disk}

/-- Nothing is made on the way to an output root that stands. -/
theorem approach (rooted : config.Rooted here disk) : config.approach here disk = (disk, true) :=
  Disk.make_way_leads rooted.begins rooted.reached

/-- An output root stands once the way to it has been made. -/
theorem of_approach {between : Disk} (tree : disk.IsTree)
    (reached : config.approach disk.here disk = (between, true)) :
    config.Rooted disk.here between := by
  obtain ⟨treeBetween, grows⟩ := Disk.make_way_grows tree reached
  obtain ⟨_, begins, leads⟩ := Disk.make_way_reached tree reached
  rw [Path.walk_way] at leads
  exact ⟨treeBetween, grows.here, begins, leads⟩

/-- There are directories on the way to an output root that stands. -/
theorem passed (rooted : config.Rooted here disk) (location : Location)
    (passes : config.Passes here location) : disk.node? location = some .directory := by
  obtain ⟨front, ⟨back, whole⟩, rfl⟩ := passes
  have leads := rooted.reached
  rw [← whole] at leads
  exact (Disk.Leads.front front back leads).stands rooted.tree rooted.begins

/-- An output root stands while there are directories on the way to it. -/
theorem kept (rooted : config.Rooted here disk) (tree : after.IsTree) (current : after.here = here)
    (stay : ∀ location, config.Passes here location → after.node? location = disk.node? location) :
    config.Rooted here after := by
  refine ⟨tree, current, ?_, (Disk.follow_iff _ _ _ _).mp ?_⟩
  · rw [stay _ (config.passes_start here)]
    exact rooted.begins
  · rw [Disk.follow_agrees _ (Path.way config.outputRoot) stay]
    exact (Disk.follow_iff _ _ _ _).mpr rooted.reached

end Rooted
end Config

/-- Whether a step changes nothing but what the session of a language owns, and depends on nothing
that another session owns, while the output root stands. -/
structure Confined {Result : Type} (config : Config) (here : Location) (language : Language)
    (step : Disk → Disk × Result) : Prop where
  /-- The disk stays a tree. -/
  tree : ∀ disk, config.Rooted here disk → (step disk).1.IsTree
  /-- The current directory is the same. -/
  current : ∀ disk, config.Rooted here disk → (step disk).1.here = here
  /-- Nothing else changes. -/
  frame : ∀ disk, config.Rooted here disk → ∀ location, ¬ config.Owns here language location →
    (step disk).1.node? location = disk.node? location
  /-- Disks that differ in what other sessions own have the same outcome, and go on to differ in
  nothing else. -/
  blind : ∀ disk twin, config.Rooted here disk → config.Rooted here twin →
    disk.Agrees (config.Sees here language) twin →
    (step disk).2 = (step twin).2 ∧ (step disk).1.Agrees (config.Sees here language) (step twin).1

namespace Confined

variable {Result Next : Type} {config : Config} {here : Location} {language : Language}

/-- An output root stands after a confined step. -/
theorem rooted {step : Disk → Disk × Result} (confined : Confined config here language step)
    {disk : Disk} (rooted : config.Rooted here disk) : config.Rooted here (step disk).1 :=
  rooted.kept (confined.tree disk rooted) (confined.current disk rooted) fun location passes =>
    confined.frame disk rooted location fun owned => owned.2 passes

/-- A confined step changes nothing that another session looks at. -/
theorem unseen {other : Language} {step : Disk → Disk × Result}
    (confined : Confined config here language step) (different : other ≠ language) {disk : Disk}
    (rooted : config.Rooted here disk) : (step disk).1.Agrees (config.Sees here other) disk :=
  fun location sees => confined.frame disk rooted location (sees language (Ne.symm different))

/-- Confined steps of different sessions can be swapped.

Proof: neither changes what the other looks at, so that both have the outcome that they would have
alone. What a session owns is what its own step leaves there, and nothing else is changed. -/
theorem swap {other : Language} {step : Disk → Disk × Result} {next : Disk → Disk × Next}
    (first : Confined config here language step) (second : Confined config here other next)
    (different : other ≠ language) {disk : Disk} (rooted : config.Rooted here disk) :
    (next (step disk).1).2 = (next disk).2 ∧ (step (next disk).1).2 = (step disk).2 ∧
      ∀ location,
        (next (step disk).1).1.node? location = (step (next disk).1).1.node? location := by
  have stepRooted := first.rooted rooted
  have nextRooted := second.rooted rooted
  obtain ⟨nextOutcome, nextAgrees⟩ :=
    second.blind (step disk).1 disk stepRooted rooted (first.unseen different rooted)
  obtain ⟨stepOutcome, stepAgrees⟩ :=
    first.blind (next disk).1 disk nextRooted rooted (second.unseen (Ne.symm different) rooted)
  refine ⟨nextOutcome, stepOutcome, fun location => ?_⟩
  by_cases owned : config.Owns here language location
  · rw [second.frame (step disk).1 stepRooted location (owned.apart different)]
    exact (stepAgrees location (config.sees_inside owned.1)).symm
  by_cases otherOwned : config.Owns here other location
  · rw [first.frame (next disk).1 nextRooted location owned]
    exact nextAgrees location (config.sees_inside otherOwned.1)
  · rw [second.frame (step disk).1 stepRooted location otherOwned,
      first.frame (next disk).1 nextRooted location owned, first.frame disk rooted location owned,
      second.frame disk rooted location otherOwned]

/-- What does the same as a confined step is confined. -/
theorem congr {step other : Disk → Disk × Result} (confined : Confined config here language step)
    (same : ∀ disk, step disk = other disk) : Confined config here language other := by
  obtain rfl : step = other := funext same
  exact confined

/-- To do nothing is confined. -/
theorem nothing (result : Result) : Confined config here language fun disk => (disk, result) :=
  ⟨fun _ rooted => rooted.tree, fun _ rooted => rooted.current, fun _ _ _ _ => rfl,
    fun _ _ _ _ agree => ⟨rfl, agree⟩⟩

/-- What follows the success of a confined step, if confined, makes a confined step with it. -/
theorem and_then {step : Disk → Disk × Except Failure Result}
    {next : Result → Disk → Disk × Except Failure Next} (first : Confined config here language step)
    (second : ∀ result, Confined config here language (next result)) :
    Confined config here language fun disk =>
      match step disk with
      | (disk, .error failure) => (disk, .error failure)
      | (disk, .ok result) => next result disk := by
  constructor
  case tree =>
    intro disk rooted
    have tree := first.tree disk rooted
    have stillRooted := first.rooted rooted
    cases outcome : step disk with
    | mk between result =>
      rw [outcome] at tree stillRooted
      cases result with
      | error failure => exact tree
      | ok value => exact (second value).tree between stillRooted
  case current =>
    intro disk rooted
    have current := first.current disk rooted
    have stillRooted := first.rooted rooted
    cases outcome : step disk with
    | mk between result =>
      rw [outcome] at current stillRooted
      cases result with
      | error failure => exact current
      | ok value => exact (second value).current between stillRooted
  case frame =>
    intro disk rooted location unowned
    have frame := first.frame disk rooted location unowned
    have stillRooted := first.rooted rooted
    cases outcome : step disk with
    | mk between result =>
      rw [outcome] at frame stillRooted
      cases result with
      | error failure => exact frame
      | ok value => exact ((second value).frame between stillRooted location unowned).trans frame
  case blind =>
    intro disk twin rooted twinRooted agree
    have blind := first.blind disk twin rooted twinRooted agree
    have stillRooted := first.rooted rooted
    have twinStillRooted := first.rooted twinRooted
    cases outcome : step disk with
    | mk between result =>
      cases twinOutcome : step twin with
      | mk twinBetween twinResult =>
        rw [outcome, twinOutcome] at blind
        rw [outcome] at stillRooted
        rw [twinOutcome] at twinStillRooted
        obtain ⟨rfl, agreeBetween⟩ : result = twinResult ∧ _ := blind
        cases result with
        | error failure => exact ⟨rfl, agreeBetween⟩
        | ok value =>
          exact (second value).blind between twinBetween stillRooted twinStillRooted agreeBetween

/-- What follows a confined step that has no result but its success, if confined, makes a confined
step with it. -/
theorem followed {step : Disk → Disk × Except Failure Unit}
    {next : Disk → Disk × Except Failure Next} (first : Confined config here language step)
    (second : Confined config here language next) :
    Confined config here language fun disk =>
      match step disk with
      | (disk, .error failure) => (disk, .error failure)
      | (disk, .ok ()) => next disk := by
  refine (first.and_then fun _ => second).congr fun disk => ?_
  cases step disk with
  | mk between result => cases result <;> rfl

/-- What follows something that is looked up, where other sessions own nothing, is a confined step
with it. -/
theorem reading {read : Disk → Except Failure Result}
    {next : Result → Disk → Disk × Except Failure Next}
    (sighted : ∀ disk twin, config.Rooted here disk → config.Rooted here twin →
      disk.Agrees (config.Sees here language) twin → read disk = read twin)
    (second : ∀ result, Confined config here language (next result)) :
    Confined config here language fun disk =>
      match read disk with
      | .error failure => (disk, .error failure)
      | .ok result => next result disk := by
  constructor
  case tree =>
    intro disk rooted
    cases outcome : read disk with
    | error failure => exact rooted.tree
    | ok value => exact (second value).tree disk rooted
  case current =>
    intro disk rooted
    cases outcome : read disk with
    | error failure => exact rooted.current
    | ok value => exact (second value).current disk rooted
  case frame =>
    intro disk rooted location unowned
    cases outcome : read disk with
    | error failure => rfl
    | ok value => exact (second value).frame disk rooted location unowned
  case blind =>
    intro disk twin rooted twinRooted agree
    have same := sighted disk twin rooted twinRooted agree
    cases outcome : read disk with
    | error failure =>
      rw [outcome] at same
      simp only [← same]
      exact ⟨trivial, agree⟩
    | ok value =>
      rw [outcome] at same
      simp only [← same]
      exact (second value).blind disk twin rooted twinRooted agree

end Confined

section Steps

variable {config : Config} {here : Location} {language : Language} {templates : TemplateSource}

/-- Where the output root stands, a session starts if no file is in the place of its output
directory, and leaves nothing in it. -/
theorem Config.Rooted.opens {disk : Disk} (rooted : config.Rooted here disk)
    (outside : config.BeginsOutside here language) (templates : TemplateSource)
    (usable : Disk.IsUsable (config.outputPath language))
    (unoccupied : ∀ content, disk.node? (config.outputPlace here language) ≠ some (.file content)) :
    ∃ after, Session.start config language templates disk =
        (after, Session.verdict config language templates true) ∧
      Session.Opened config here language disk after := by
  obtain rfl := rooted.current
  exact Session.start_opened templates rooted.tree usable outside rooted.approach unoccupied
    fun missing => absurd missing (rooted.found usable)

/-- Where the output root stands, a session does not start if a file is in the place of its output
directory. -/
theorem Config.Rooted.occupied {disk : Disk} (rooted : config.Rooted here disk)
    (templates : TemplateSource) (usable : Disk.IsUsable (config.outputPath language))
    (content : Content)
    (file : disk.node? (config.outputPlace here language) = some (.file content)) :
    Session.start config language templates disk =
      (disk, Session.verdict config language templates false) := by
  obtain rfl := rooted.current
  exact Session.start_occupied rooted.tree usable rooted.approach content file

/-- To start a session is confined.

Proof: the output root stands, so that the way to it makes nothing. The start depends on whether a
file is in the place of the output directory, which no other session owns. If there is none, the
output directory has nothing in it in the end but what lies on its path. -/
theorem Session.start_confined (outside : config.BeginsOutside here language)
    (templates : TemplateSource) :
    Confined config here language (Session.start config language templates) := by
  by_cases usable : Disk.IsUsable (config.outputPath language)
  · -- Whether a file is in the place of the output directory decides how a start ends.
    have ends : ∀ disk, config.Rooted here disk →
        (∃ content, disk.node? (config.outputPlace here language) = some (.file content)) ∧
          start config language templates disk = (disk, verdict config language templates false) ∨
        (∀ content, disk.node? (config.outputPlace here language) ≠ some (.file content)) ∧
          ∃ after, start config language templates disk =
              (after, verdict config language templates true) ∧
            Opened config here language disk after := by
      intro disk rooted
      by_cases file : ∃ content,
          disk.node? (config.outputPlace here language) = some (.file content)
      · obtain ⟨content, there⟩ := file
        exact Or.inl ⟨⟨content, there⟩, rooted.occupied templates usable content there⟩
      · exact Or.inr ⟨not_exists.mp file,
          rooted.opens outside templates usable (not_exists.mp file)⟩
    constructor
    case tree =>
      intro disk rooted
      rcases ends disk rooted with ⟨_, blocked⟩ | ⟨_, after, started, result⟩
      · rw [blocked]
        exact rooted.tree
      · rw [started]
        exact result.tree
    case current =>
      intro disk rooted
      rcases ends disk rooted with ⟨_, blocked⟩ | ⟨_, after, started, result⟩
      · rw [blocked]
        exact rooted.current
      · rw [started]
        exact result.current
    case frame =>
      intro disk rooted location unowned
      rcases ends disk rooted with ⟨_, blocked⟩ | ⟨_, after, started, result⟩
      · rw [blocked]
      · rw [started]
        by_cases passes : config.Passes here location
        · rw [rooted.passed location passes]
          exact result.way location ((config.leads_through_iff _ _ _).mpr (Or.inl passes))
        · exact result.elsewhere location fun inside => unowned ⟨inside, passes⟩
    case blind =>
      intro disk twin rooted twinRooted agree
      have place : disk.node? (config.outputPlace here language) =
          twin.node? (config.outputPlace here language) :=
        agree _ (config.sees_inside List.prefix_rfl)
      have twinEnds := ends twin twinRooted
      rw [← place] at twinEnds
      rcases ends disk rooted with ⟨⟨content, file⟩, blocked⟩ | ⟨free, after, started, result⟩
      · rcases twinEnds with ⟨_, twinBlocked⟩ | ⟨twinFree, _⟩
        · rw [blocked, twinBlocked]
          exact ⟨rfl, agree⟩
        · exact absurd file (twinFree content)
      · rcases twinEnds with ⟨⟨content, file⟩, _⟩ | ⟨_, twinAfter, twinStarted, twinResult⟩
        · exact absurd file (free content)
        rw [started, twinStarted]
        refine ⟨rfl, fun location sees => ?_⟩
        by_cases through : Path.LeadsThrough here (config.outputPath language) location
        · exact (result.way location through).trans (twinResult.way location through).symm
        by_cases inside : config.outputPlace here language <+: location
        · exact (result.inside location inside through).trans
            (twinResult.inside location inside through).symm
        · exact (result.elsewhere location inside).trans
            ((agree location sees).trans (twinResult.elsewhere location inside).symm)
  · have fails : start config language templates =
        fun disk => (disk, verdict config language templates false) := by
      funext disk
      exact start_unusable usable
    rw [fails]
    exact .nothing _

/-- Whether a file can be written where a path leads. -/
def Disk.isWritable : Except Fault Destination → Bool
  | .ok (.file _ _) | .ok (.free _ false) => true
  | .ok (.free _ true) | .ok (.directory _) | .error _ => false

/-- A session puts a file with a proper name in its output directory, if the path leads to a place
for it. -/
theorem Session.write_file_resolve (config : Config) (here : Location) (language : Language)
    (templates : TemplateSource) (schema name text : String) (named : Path.isName name = true)
    (disk : Disk) (current : disk.here = here) :
    (config.sessionFrom language templates).writeFile schema
        (Path.join (config.outputPath language) name) text disk =
      if Disk.isWritable (disk.resolve (Path.join (config.outputPath language) name)) then
        (disk.put (config.outputPlace here language ++ [name]) (.file (.text text)), .ok ())
      else
        (disk, .error (.write (Path.join (config.outputPath language) name) schema language)) := by
  have direct : (config.sessionFrom language templates).prepareParent
      (Path.join (config.outputPath language) name) disk = (disk, .ok ()) := by
    simp [prepareParent, config.output_parent language name named]
  have place : Path.location disk.here (Path.join (config.outputPath language) name) =
      config.outputPlace here language ++ [name] := by
    rw [current]
    exact Path.location_inside here _ name named
  rw [writeFile, direct]
  dsimp only
  rw [Disk.write]
  cases resolved : disk.resolve (Path.join (config.outputPath language) name) with
  | error fault => rfl
  | ok destination =>
    have found := (disk.resolve_location _ _ resolved).trans place
    cases destination with
    | directory location => rfl
    | file location content =>
      obtain rfl : location = config.outputPlace here language ++ [name] := found
      rfl
    | free location onlyDirectory =>
      obtain rfl : location = config.outputPlace here language ++ [name] := found
      cases onlyDirectory <;> rfl

/-- A place for a file in an output directory is owned, and a file can be put there. -/
theorem Config.Rooted.writable {disk : Disk} (rooted : config.Rooted here disk) (name text : String)
    (named : Path.isName name = true)
    (writable : Disk.isWritable
      (disk.resolve (Path.join (config.outputPath language) name)) = true) :
    config.Owns here language (config.outputPlace here language ++ [name]) ∧
      (disk.put (config.outputPlace here language ++ [name]) (.file (.text text))).IsTree := by
  have place : Path.location disk.here (Path.join (config.outputPath language) name) =
      config.outputPlace here language ++ [name] := by
    rw [rooted.current]
    exact Path.location_inside here _ name named
  -- The place is in a directory and is none itself.
  have vacant : disk.node? (config.outputPlace here language) = some .directory ∧
      disk.node? (config.outputPlace here language ++ [name]) ≠ some .directory := by
    cases resolved : disk.resolve (Path.join (config.outputPath language) name) with
    | error fault => simp [resolved, Disk.isWritable] at writable
    | ok destination =>
      have found := (disk.resolve_location _ _ resolved).trans place
      have stands := Disk.resolve_stands rooted.tree _ _ resolved
      cases destination with
      | directory location => simp [resolved, Disk.isWritable] at writable
      | file location content =>
        obtain rfl : location = config.outputPlace here language ++ [name] := found
        have file : disk.node? (config.outputPlace here language ++ [name]) =
            some (.file content) :=
          stands
        exact ⟨rooted.tree _ name (by simp [file]), by simp [file]⟩
      | free location onlyDirectory =>
        obtain rfl : location = config.outputPlace here language ++ [name] := found
        obtain ⟨free, above, last, parts, directory⟩ := stands
        obtain ⟨rfl, _⟩ := List.append_inj' parts rfl
        exact ⟨directory, by simp [free]⟩
  constructor
  · refine ⟨List.prefix_append _ _, fun passes => ?_⟩
    exact vacant.2 (rooted.passed _ passes)
  · exact rooted.tree.put _ name _ vacant.1 (Or.inr vacant.2)

/-- The path of a file in an output directory leads through nothing that another session owns. -/
theorem Config.sees_file (config : Config) (here : Location) (language : Language) (name : String)
    (named : Path.isName name = true) (location : Location)
    (through : Path.LeadsThrough here (Path.join (config.outputPath language) name) location) :
    config.Sees here language location := by
  obtain ⟨same, route⟩ := config.file_route language name named
  obtain ⟨front, beginning, rfl⟩ := through
  rw [route, List.prefix_concat_iff] at beginning
  rw [same]
  rcases beginning with rfl | within
  · apply config.sees_inside
    rw [Path.walk_append, Path.walk_name _ name named]
    exact List.prefix_append _ _
  · exact config.sees_through ⟨front, within, rfl⟩

/-- To write a file with a proper name is confined. -/
theorem Session.write_file_confined (config : Config) (here : Location) (language : Language)
    (templates : TemplateSource) (schema name text : String)
    (named : Path.isName name = true) :
    Confined config here language ((config.sessionFrom language templates).writeFile schema
      (Path.join (config.outputPath language) name) text) := by
  have resolves := write_file_resolve config here language templates schema name text named
  constructor
  case tree =>
    intro disk rooted
    rw [resolves disk rooted.current]
    split
    · rename_i writable
      exact (rooted.writable name text named writable).2
    · exact rooted.tree
  case current =>
    intro disk rooted
    rw [resolves disk rooted.current]
    split <;> exact rooted.current
  case frame =>
    intro disk rooted location unowned
    rw [resolves disk rooted.current]
    split
    · rename_i writable
      have owned := (rooted.writable name text named writable).1
      rw [Disk.node_put _ _ _ _ (by simp), if_neg]
      rintro rfl
      exact unowned owned
    · rfl
  case blind =>
    intro disk twin rooted twinRooted agree
    have same : disk.resolve (Path.join (config.outputPath language) name) =
        twin.resolve (Path.join (config.outputPath language) name) := by
      refine Disk.resolve_agrees _ (rooted.current.trans twinRooted.current.symm) ?_
      rw [rooted.current]
      exact fun location through =>
        agree location (config.sees_file here language name named location through)
    rw [resolves disk rooted.current, resolves twin twinRooted.current, same]
    split
    · refine ⟨rfl, fun location sees => ?_⟩
      rw [Disk.node_put _ _ _ _ (by simp), Disk.node_put _ _ _ _ (by simp), agree location sees]
    · exact ⟨rfl, agree⟩

/-- Whether templates are not looked for in the output directory of another language: they are in
a table, or the path of their directory does not lead there. -/
def TemplateSource.IsApart (config : Config) (here : Location) (language : Language) :
    TemplateSource → Prop
  | table _ => True
  | directory root => ∀ other, other ≠ language → ∀ place, Path.LeadsThrough here root place →
      ¬ config.outputPlace here other <+: place

/-- Templates in a directory that is not in the output root are not looked for in an output
directory, if no two dots are behind a name in the path of their directory. -/
theorem TemplateSource.apart_plain (config : Config) (here : Location) (language : Language)
    (root : String) (plain : ".." ∉ Path.route root)
    (outside : ¬ Path.location here config.outputRoot <+: Path.location here root) :
    IsApart config here language (.directory root) := by
  intro other _ place through inside
  apply outside
  have above : Path.location here config.outputRoot <+: config.outputPlace here other := by
    rw [config.output_place]
    exact List.prefix_append _ _
  exact above.trans (inside.trans (Path.leads_through_plain here root plain place through))

/-- The path of a resource leads through nothing that another session owns. -/
theorem Config.sees_resource {root resource : String} {location : Location}
    (apart : TemplateSource.IsApart config here language (.directory root))
    (member : resource ∈ language.resources)
    (through : Path.LeadsThrough here (Path.join root resource) location) :
    config.Sees here language location := by
  intro other different owned
  obtain ⟨folder, name, placed⟩ := resources_placed language resource member
  obtain ⟨same, route, _⟩ := placed.joined root
  have base : ¬ config.outputPlace here other <+: Path.location here root :=
    apart other different _ (Path.leads_through_end here root)
  have step : ∀ (above : Location) (segment : String), other.layout.directory ≠ segment →
      ¬ config.outputPlace here other <+: above →
      ¬ config.outputPlace here other <+: above ++ [segment] := by
    intro above segment named outside inside
    rw [List.prefix_concat_iff] at inside
    rcases inside with same | inside
    · rw [config.output_place] at same
      exact named (List.cons.inj (List.append_inj_right' same rfl)).1
    · exact outside inside
  obtain ⟨front, beginning, rfl⟩ := through
  rw [route, List.append_cons, List.prefix_concat_iff, List.prefix_concat_iff] at beginning
  rw [same] at owned
  have folderOutside := step _ _ (placed.other other).1 base
  rcases beginning with rfl | rfl | within
  · rw [Path.walk_append, Path.walk_append, Path.walk_way, placed.folderStep.walk,
      placed.nameStep.walk] at owned
    exact step _ _ (placed.other other).2 folderOutside owned.1
  · rw [Path.walk_append, Path.walk_way, placed.folderStep.walk] at owned
    exact folderOutside owned.1
  · obtain ⟨padding, whole, _⟩ := Path.way_padding root
    refine apart other different _ ⟨front, ?_, rfl⟩ owned.1
    rw [whole]
    exact within.trans (List.prefix_append _ _)

section Loading

-- Comparing the loading of a resource with itself must not look into the reading of the file.
attribute [local irreducible] Disk.readText Path.join

/-- What is loaded does not depend on what other sessions own. -/
theorem TemplateSource.load_sighted (apart : templates.IsApart config here language)
    (resource : String) (member : resource ∈ language.resources) (disk twin : Disk)
    (rooted : config.Rooted here disk) (twinRooted : config.Rooted here twin)
    (agree : disk.Agrees (config.Sees here language) twin) :
    templates.load disk resource = templates.load twin resource := by
  cases templates with
  | table resources => rfl
  | directory root =>
    have same : disk.readText (Path.join root resource) =
        twin.readText (Path.join root resource) := by
      have found : disk.resolve (Path.join root resource) =
          twin.resolve (Path.join root resource) := by
        refine Disk.resolve_agrees _ (rooted.current.trans twinRooted.current.symm) ?_
        rw [rooted.current]
        exact fun place through => agree place (Config.sees_resource apart member through)
      rw [Disk.readText, Disk.readText, Disk.read, Disk.read, found]
    delta load
    dsimp only
    rw [same]

end Loading

section Writing

-- Steps are compared as they are written, and neither files nor the texts of paths are looked into.
attribute [local irreducible] Session.writeFile Path.join Message.render renderManager

/-- To write a message that is named by an identifier is confined. -/
theorem Session.write_message_confined (apart : templates.IsApart config here language)
    (message : Message) (identifier : Name.isIdentifier message.name = true) :
    Confined config here language
      ((config.sessionFrom language templates).writeMessage message) := by
  have named := message.file_name_identifier language identifier
  have sighted : ∀ disk twin, config.Rooted here disk → config.Rooted here twin →
      Disk.Agrees (config.Sees here language) disk twin →
      message.render language templates disk = message.render language templates twin :=
    fun disk twin rooted twinRooted agree =>
      message.render_agrees language templates templates twin disk
        (templates.load_sighted apart _ List.mem_cons_self disk twin rooted twinRooted agree)
  have confined := Confined.reading sighted fun text =>
    (write_file_confined config here language templates message.name _ text named).followed
      (.nothing (.ok ((config.sessionFrom language templates).messagePath message)))
  refine confined.congr fun disk => ?_
  rw [writeMessage]
  cases message.render language templates disk with
  | error failure => rfl
  | ok text => rfl

/-- To copy support files is confined. -/
theorem Session.copy_support_confined (apart : templates.IsApart config here language)
    (resources : List String)
    (loaded : ∀ resource ∈ resources, resource ∈ language.resources)
    (named : ∀ resource ∈ resources, Path.isName (language.supportName resource) = true) :
    Confined config here language
      ((config.sessionFrom language templates).copySupport resources) := by
  induction resources with
  | nil => exact .nothing _
  | cons resource resources inductionHypothesis =>
    rw [List.forall_mem_cons] at loaded named
    have sighted := templates.load_sighted apart resource loaded.1
    have written : ∀ text, Confined config here language
        ((config.sessionFrom language templates).writeFile resource
          ((config.sessionFrom language templates).supportPath resource) text) :=
      fun text => write_file_confined config here language templates resource _ text named.1
    have confined := Confined.reading sighted fun text => (written text).followed
      ((inductionHypothesis loaded.2 named.2).and_then fun paths =>
        .nothing (.ok ((config.sessionFrom language templates).supportPath resource :: paths)))
    refine confined.congr fun disk => ?_
    rw [copy_support_cons]
    cases templates.load disk resource with
    | error failure => rfl
    | ok text =>
      dsimp only
      cases (config.sessionFrom language templates).writeFile resource
          ((config.sessionFrom language templates).supportPath resource) text disk with
      | mk between result =>
        cases result with
        | error failure => rfl
        | ok value =>
          dsimp only
          cases (config.sessionFrom language templates).copySupport resources between with
          | mk after result => cases result <;> rfl

/-- To write a manager is confined. -/
theorem Session.write_manager_confined (apart : templates.IsApart config here language)
    (slots : List (Option Message)) :
    Confined config here language
      ((config.sessionFrom language templates).writeManager slots) := by
  obtain ⟨proper, _⟩ := runtime_names_proper language
  rw [Language.runtimeNames, List.forall_mem_append, List.forall_mem_map] at proper
  have sighted : ∀ disk twin, config.Rooted here disk → config.Rooted here twin →
      Disk.Agrees (config.Sees here language) disk twin →
      renderManager language templates disk slots = renderManager language templates twin slots :=
    fun disk twin rooted twinRooted agree =>
      render_manager_agrees language templates templates twin disk slots
        (templates.load_sighted apart _ (List.mem_cons_of_mem _ List.mem_cons_self) disk twin
          rooted twinRooted agree)
  have copied : Confined config here language ((config.sessionFrom language templates).copySupport
      language.layout.supportFiles) :=
    copy_support_confined apart _
      (fun resource member => List.mem_cons_of_mem _ (List.mem_cons_of_mem _ member)) proper.1
  have written := fun text => write_file_confined config here language templates
    language.layout.managerFile _ text (proper.2 _ List.mem_cons_self)
  have confined := copied.and_then fun paths => Confined.reading sighted fun text =>
    (written text).followed (.nothing
      (.ok (paths ++ [Path.join (config.outputPath language) language.layout.managerFile])))
  refine confined.congr fun disk => ?_
  rw [writeManager]
  dsimp only
  cases (config.sessionFrom language templates).copySupport language.layout.supportFiles disk with
  | mk between result =>
    cases result with
    | error failure => rfl
    | ok paths =>
      dsimp only
      cases renderManager language templates between slots with
      | error failure => rfl
      | ok text => rfl

end Writing
end Steps
end PacketSmith
