import PacketSmith.Proofs.Disk.Directories
import PacketSmith.Proofs.Package

/-!
# What sessions leave behind

A session begins with a directory that is made anew. Its path can lead through places inside of
the directory, and these become directories again; and where the path leads to nothing because
something on it is missing, what the directory holds is left over. From there on a session
writes files with proper names into the directory and changes nothing else.
-/

namespace PacketSmith

/-- What is left over at a location when the directory at a path is removed: nothing, unless the
path leads nowhere because something is missing. -/
def Disk.leftover (disk : Disk) (path : String) (location : Location) : Option Node :=
  match disk.resolve path with
  | .error .missing => disk.node? location
  | _ => none

/-- The disk without the directory to which a path leads, or without what is in the directory, if
the path does not lead to the directory any more then. -/
def Disk.removed (disk : Disk) (path : String) (location : Location) : Disk :=
  match (disk.dropInside location).resolve path with
  | .ok _ => disk.dropBelow location
  | .error _ => disk.dropInside location

/-- Removing a directory takes away what is below its place, and nothing else but what stands at its
place. -/
theorem Disk.node_removed (disk : Disk) (path : String) (place location : Location)
    (lower : place ≠ []) (other : location ≠ place) :
    (disk.removed path place).node? location =
      if place <+: location then none else disk.node? location := by
  rw [removed]
  split
  · exact disk.node_drop_below place location lower
  · rw [node_drop_inside]
    simp [other]

/-- Removing a directory makes nothing. -/
theorem Disk.node_removed_or (disk : Disk) (path : String) (place location : Location)
    (lower : place ≠ []) :
    (disk.removed path place).node? location = disk.node? location ∨
      (disk.removed path place).node? location = none := by
  rw [removed]
  split
  · rw [disk.node_drop_below place location lower]
    split <;> simp
  · rw [node_drop_inside]
    split <;> simp

/-- A disk without a directory has the same current directory. -/
theorem Disk.removed_here (disk : Disk) (path : String) (place : Location) :
    (disk.removed path place).here = disk.here := by
  rw [removed]
  split <;> rfl

/-- A tree without a directory is a tree. -/
theorem Disk.IsTree.removed {disk : Disk} (tree : disk.IsTree) (path : String) (place : Location)
    (lower : place ≠ []) : (disk.removed path place).IsTree := by
  rw [Disk.removed]
  split
  · exact tree.drop_below place lower
  · exact tree.drop_inside place

/-- What a cleared directory is depends on where its path leads. -/
theorem Session.clear_directory_resolve (disk : Disk) (path : String) :
    clearDirectory disk path =
      match disk.resolve path with
      | .ok (.directory location) => .ok (disk.removed path location)
      | .ok (.free _ _) => .ok disk
      | .ok (.file _ _) => .error .unusable
      | .error .missing => .ok disk
      | .error .unusable => .error .unusable := by
  rw [clearDirectory, Disk.removeDirectory]
  cases disk.resolve path with
  | error fault => cases fault <;> rfl
  | ok destination =>
    cases destination with
    | directory location =>
      simp only [bind, Except.bind, Disk.removed]
      cases (disk.dropInside location).resolve path <;> rfl
    | file location content => rfl
    | free location onlyDirectory => rfl

/-- What is true of a disk on which the directory at a path has been cleared. -/
structure Cleared (disk : Disk) (path : String) (after : Disk) : Prop where
  /-- The disk is a tree. -/
  tree : after.IsTree
  /-- The current directory is the same. -/
  current : after.here = disk.here
  /-- In the directory there is what is left over. -/
  inside : ∀ location, Path.location disk.here path <+: location →
    location ≠ Path.location disk.here path → after.node? location = disk.leftover path location
  /-- Elsewhere nothing has changed. -/
  elsewhere : ∀ location, ¬ Path.location disk.here path <+: location →
    after.node? location = disk.node? location

/-- Clearing a directory changes what stands at its place and below it, and nothing else. -/
theorem Session.clear_exact {disk after : Disk} (tree : disk.IsTree) (path : String)
    (lower : Path.location disk.here path ≠ []) (cleared : clearDirectory disk path = .ok after) :
    Cleared disk path after := by
  rw [clear_directory_resolve] at cleared
  cases resolved : disk.resolve path with
  | error fault =>
    rw [resolved] at cleared
    cases fault with
    | missing =>
      cases cleared
      exact ⟨tree, rfl, by simp [Disk.leftover, resolved], fun _ _ => rfl⟩
    | unusable => cases cleared
  | ok destination =>
    have place := disk.resolve_location path destination resolved
    have stands := Disk.resolve_stands tree path destination resolved
    rw [resolved] at cleared
    cases destination with
    | directory location =>
      cases cleared
      obtain rfl : location = Path.location disk.here path := place
      refine ⟨tree.removed path _ lower, disk.removed_here path _, ?_, ?_⟩
      · intro other below different
        rw [disk.node_removed path _ _ lower different, if_pos below, Disk.leftover, resolved]
      · intro other outside
        have different : other ≠ Path.location disk.here path := by
          rintro rfl
          exact outside List.prefix_rfl
        rw [disk.node_removed path _ _ lower different, if_neg outside]
    | file location content => cases cleared
    | free location onlyDirectory =>
      cases cleared
      obtain rfl : location = Path.location disk.here path := place
      refine ⟨tree, rfl, ?_, fun _ _ => rfl⟩
      rintro _ ⟨rest, rfl⟩ different
      rw [Disk.leftover, resolved]
      exact tree.below _ rest (by simpa using different) (by simp [stands.1])

namespace Config

/-- The path of the output directory of a language. -/
def outputPath (config : Config) (language : Language) : String :=
  Path.join config.outputRoot language.layout.directory

/-- The place of the output directory of a language. -/
def outputPlace (config : Config) (here : Location) (language : Language) : Location :=
  Path.location here (config.outputPath language)

/-- The session of a language in a run. -/
def session (config : Config) (language : Language) : Session :=
  ⟨language, config.templateSource, config.outputPath language⟩

/-- Output directories have proper names. -/
theorem directory_named (language : Language) :
    Path.isName language.layout.directory = true := by
  cases language <;> decide

/-- The names of output directories lead down. -/
theorem directory_step (language : Language) : Disk.IsStep language.layout.directory := by
  cases language <;> exact ⟨by decide, by decide, by decide⟩

/-- The segments of the path of an output directory. -/
theorem output_segments (config : Config) (language : Language) :
    Path.segments (config.outputPath language) =
      Path.stem config.outputRoot ++ [language.layout.directory] :=
  Path.segments_inside _ _ (directory_named language)

/-- The path of an output directory starts where that of the output root does. -/
theorem output_start (config : Config) (here : Location) (language : Language) :
    Path.start here (config.outputPath language) = Path.start here config.outputRoot :=
  Path.start_inside here _ _ (directory_named language)

/-- The route of the path of an output directory. -/
theorem output_route (config : Config) (language : Language) :
    Path.route (config.outputPath language) =
      Path.way config.outputRoot ++ [language.layout.directory] :=
  Path.route_inside _ _ (directory_named language)

/-- Where no two dots are behind a name in the output root, none are on the route of an output
directory. -/
theorem output_plain (config : Config) (plain : ".." ∉ Path.route config.outputRoot)
    (language : Language) : ".." ∉ Path.route (config.outputPath language) := by
  obtain ⟨padding, whole, _⟩ := Path.way_padding config.outputRoot
  rw [whole, List.mem_append, not_or] at plain
  rw [config.output_route, List.mem_append, not_or, List.mem_singleton]
  exact ⟨plain.1, (directory_step language).down.symm⟩

/-- Output directories are next to each other, where the output root leads. -/
theorem output_place (config : Config) (here : Location) (language : Language) :
    config.outputPlace here language =
      Path.location here config.outputRoot ++ [language.layout.directory] :=
  Path.location_inside here _ _ (directory_named language)

/-- Output directories are below the root of the file system. -/
theorem output_lower (config : Config) (here : Location) (language : Language) :
    config.outputPlace here language ≠ [] := by
  simp [output_place]

/-- The path of an output directory is not empty. -/
theorem output_inhabited (config : Config) (language : Language) :
    config.outputPath language ≠ "" := by
  intro empty
  have segments := config.output_segments language
  rw [empty, Path.segments_whole "" (by simp)] at segments
  have last := congrArg List.getLast? segments
  cases language <;> simp [Language.layout] at last

/-- The directory of a file in an output directory is the output directory. -/
theorem output_parent (config : Config) (language : Language) (name : String)
    (named : Path.isName name = true) :
    Path.parent? (Path.join (config.outputPath language) name) =
      some (config.outputPath language) :=
  Path.parent_inside _ _ name _ (config.output_segments language) (directory_named language) named

end Config

/-- What is true of a disk on which a session has started: the directory stands, what is below it
is left over or lies on its path, and elsewhere directories on its path are new at most. -/
structure Started (config : Config) (here : Location) (language : Language) (disk after : Disk) :
    Prop where
  /-- The disk is a tree. -/
  tree : after.IsTree
  /-- The current directory is the given one. -/
  current : after.here = here
  /-- The path of the output directory leads to its place. -/
  reached : after.resolve (config.outputPath language) =
    .ok (.directory (config.outputPlace here language))
  /-- Elsewhere nothing but missing directories on the path is new. -/
  elsewhere : ∀ location, ¬ config.outputPlace here language <+: location →
    after.node? location = disk.node? location ∨
      disk.node? location = none ∧ after.node? location = some .directory ∧
        Path.LeadsThrough here (config.outputPath language) location
  /-- In the directory, what does not lie on the path is left over. -/
  leftovers : ∀ location, config.outputPlace here language <+: location →
    ¬ Path.LeadsThrough here (config.outputPath language) location →
    after.node? location = disk.leftover (config.outputPath language) location

section Start

-- Comparing a start with itself must not look into what it does to the disk.
attribute [local irreducible] Session.clearDirectory Disk.makeDirectories

/-- A session clears its directory and makes it again. -/
theorem Session.start_steps (config : Config) (language : Language) (templates : TemplateSource)
    (disk : Disk) :
    start config language templates disk =
      match clearDirectory disk (config.outputPath language) with
      | .error _ => (disk, .error (.outputDirectory (config.outputPath language) language))
      | .ok disk =>
        match disk.makeDirectories (config.outputPath language) with
        | (disk, .error _) =>
          (disk, .error (.outputDirectory (config.outputPath language) language))
        | (disk, .ok ()) => (disk, .ok ⟨language, templates, config.outputPath language⟩) :=
  rfl

end Start

/-- The place to which a path leads lies on the path. -/
theorem Path.leads_through_end (here : Location) (path : String) :
    LeadsThrough here path (location here path) :=
  ⟨route path, List.prefix_rfl, rfl⟩

/-- What a session that starts has done. -/
theorem Session.start_exact {config : Config} {language : Language} {disk after : Disk}
    {session : Session} (tree : disk.IsTree)
    (started : start config language config.templateSource disk = (after, .ok session)) :
    session = config.session language ∧ Started config disk.here language disk after := by
  have lower := config.output_lower disk.here language
  rw [start_steps] at started
  cases first : clearDirectory disk (config.outputPath language) with
  | error fault =>
    rw [first] at started
    cases started
  | ok between =>
    have cleared := clear_exact tree _ lower first
    cases second : between.makeDirectories (config.outputPath language) with
    | mk made outcome =>
      obtain ⟨madeTree, grown, reached⟩ :=
        Disk.make_directories_grows cleared.tree _ (config.output_inhabited language) outcome second
      rw [cleared.current] at grown reached
      simp only [first, second] at started
      cases outcome with
      | error fault => cases started
      | ok value =>
        cases started
        refine ⟨rfl, madeTree, grown.here.trans cleared.current, reached rfl, ?_, ?_⟩
        · intro location elsewhere
          rw [← cleared.elsewhere location elsewhere]
          exact grown.node location
        · intro location inside aside
          have different : location ≠ config.outputPlace disk.here language := by
            rintro rfl
            exact aside (Path.leads_through_end _ _)
          rw [← cleared.inside location inside different]
          rcases grown.node location with kept | ⟨_, _, through⟩
          · exact kept
          · exact absurd through aside

/-- What is true of a disk during a session: it is a tree, and the path of the output directory
leads to its place. -/
structure Ready (config : Config) (here : Location) (language : Language) (disk : Disk) :
    Prop where
  /-- The disk is a tree. -/
  tree : disk.IsTree
  /-- The current directory is the given one. -/
  current : disk.here = here
  /-- The path of the output directory leads to its place. -/
  reached : disk.resolve (config.outputPath language) =
    .ok (.directory (config.outputPlace here language))

/-- The output directory stands. -/
theorem Ready.stands {config : Config} {here : Location} {language : Language} {disk : Disk}
    (ready : Ready config here language disk) :
    disk.node? (config.outputPlace here language) = some .directory :=
  Disk.resolve_stands ready.tree _ _ ready.reached

/-- Whether the output root stands. -/
structure Config.Rooted (config : Config) (here : Location) (disk : Disk) : Prop where
  /-- The disk is a tree. -/
  tree : disk.IsTree
  /-- The current directory is the given one. -/
  current : disk.here = here
  /-- The way to the output root begins in a directory. -/
  begins : disk.node? (Path.start here config.outputRoot) = some .directory
  /-- The way to the output root leads to a directory. -/
  reached : disk.Leads (Path.start here config.outputRoot) (Path.way config.outputRoot)
    (.directory (Path.location here config.outputRoot))

namespace Config.Rooted

variable {config : Config} {here : Location} {language : Language} {disk : Disk}

/-- Where the path of an output directory leads whose root stands is a matter of its name. -/
theorem resolve (rooted : config.Rooted here disk)
    (usable : Disk.IsUsable (config.outputPath language)) :
    disk.resolve (config.outputPath language) =
      disk.follow (Path.location here config.outputRoot) [language.layout.directory] := by
  obtain ⟨_, rfl, begins, reached⟩ := rooted
  have stands : disk.HasStart (config.outputPath language) := by
    rw [Disk.HasStart, config.output_start]
    exact begins
  rw [usable.resolve stands, config.output_start, config.output_route, reached.follow_append]

/-- Nothing is missing on the path of an output directory whose root stands. -/
theorem found (rooted : config.Rooted here disk)
    (usable : Disk.IsUsable (config.outputPath language)) :
    disk.resolve (config.outputPath language) ≠ .error .missing := by
  have step := directory_step language
  rw [rooted.resolve usable, Disk.follow]
  simp only [step.something, Bool.false_eq_true, if_false, beq_iff_eq, step.down,
    Nat.not_lt.mpr step.short]
  split <;> simp [Disk.follow]

/-- Where the output root stands, an output directory that stands is ready. -/
theorem ready (rooted : config.Rooted here disk)
    (usable : Disk.IsUsable (config.outputPath language))
    (stands : disk.node? (config.outputPlace here language) = some .directory) :
    Ready config here language disk := by
  rw [config.output_place] at stands
  refine ⟨rooted.tree, rooted.current, ?_⟩
  rw [rooted.resolve usable, Disk.follow_iff, config.output_place]
  exact .down _ _ _ _ (directory_step language) stands (.arrived _)

end Config.Rooted

/-- The output root stands where an output directory is ready. -/
theorem Ready.rooted {config : Config} {here : Location} {language : Language} {disk : Disk}
    (ready : Ready config here language disk) : config.Rooted here disk := by
  obtain ⟨tree, rfl, reached⟩ := ready
  obtain ⟨_, stands, leads⟩ := (disk.resolve_iff _ _).mp reached
  rw [Disk.HasStart, config.output_start] at stands
  rw [config.output_start, config.output_route] at leads
  have root := leads.front _ _
  rw [Path.walk_way] at root
  exact ⟨tree, rfl, stands, root⟩

/-- Writing to a path puts a file where the path leads, in the place of a file or of nothing. -/
theorem Disk.write_exact {disk after : Disk} (path : String) (content : Content)
    (tree : disk.IsTree) (written : disk.write path content = .ok after) :
    after = disk.put (Path.location disk.here path) (.file content) ∧
      disk.node? (Path.location disk.here path) ≠ some .directory ∧
      ∃ destination, disk.resolve path = .ok destination := by
  rw [write] at written
  cases resolved : disk.resolve path with
  | error fault => simp [resolved, bind, Except.bind] at written
  | ok destination =>
    have place := disk.resolve_location path destination resolved
    have stands := resolve_stands tree path destination resolved
    simp only [resolved, bind, Except.bind] at written
    cases destination with
    | directory location => cases written
    | file location old =>
      obtain rfl : location = Path.location disk.here path := place
      have there : disk.node? (Path.location disk.here path) = some (.file old) := stands
      cases written
      exact ⟨rfl, by simp [there], _, rfl⟩
    | free location onlyDirectory =>
      obtain rfl : location = Path.location disk.here path := place
      cases onlyDirectory with
      | true => cases written
      | false =>
        cases written
        exact ⟨rfl, by simp [stands.1], _, rfl⟩

section Writing

variable {config : Config} {here : Location} {language : Language} {disk after : Disk}

/-- A disk stays ready when a file is put in the output directory, in the place of a file or of
nothing. -/
theorem Ready.put (ready : Ready config here language disk) (name text : String)
    (free : disk.node? (config.outputPlace here language ++ [name]) ≠ some .directory) :
    Ready config here language
      (disk.put (config.outputPlace here language ++ [name]) (.file (.text text))) := by
  have stay : ∀ location, disk.node? location = some .directory →
      (disk.put (config.outputPlace here language ++ [name]) (.file (.text text))).node? location =
        some .directory := by
    intro location stands
    rw [Disk.node_put _ _ _ _ (by simp)]
    split
    · rename_i same
      exact absurd (same ▸ stands) free
    · exact stands
  constructor
  · exact ready.tree.put _ name _ ready.stands (Or.inr free)
  · exact ready.current
  · obtain ⟨usable, stands, leads⟩ := (disk.resolve_iff _ _).mp ready.reached
    exact (Disk.resolve_iff _ _ _).mpr ⟨usable, stay _ stands, leads.kept stay⟩

/-- The path of a file in an output directory starts where that of the output root does, and goes on
behind the directory. -/
theorem Config.file_route (config : Config) (language : Language) (name : String)
    (named : Path.isName name = true) :
    (∀ here, Path.start here (Path.join (config.outputPath language) name) =
      Path.start here (config.outputPath language)) ∧
    Path.route (Path.join (config.outputPath language) name) =
      Path.route (config.outputPath language) ++ [name] := by
  have stemmed := Path.stem_named _ _ _ (config.output_segments language) (directory_named language)
  refine ⟨fun here => Path.start_inside here _ name named, ?_⟩
  rw [Path.route_inside _ name named, Path.way, stemmed, Path.route]

/-- Whether the file of a name in an output directory can be looked up. -/
structure IsReadable (config : Config) (language : Language) (name : String) : Prop where
  /-- Its path can be looked up. -/
  usable : Disk.IsUsable (Path.join (config.outputPath language) name)
  /-- Its name is a name. -/
  named : Path.isName name = true
  /-- Its name is a step. -/
  step : Disk.IsStep name

/-- Where the file of a name in an output directory leads is a matter of the name. -/
theorem Ready.inside (ready : Ready config here language disk) (name : String)
    (named : Path.isName name = true) (destination : Destination) :
    disk.resolve (Path.join (config.outputPath language) name) = .ok destination ↔
      Disk.IsUsable (Path.join (config.outputPath language) name) ∧
        disk.Leads (config.outputPlace here language) [name] destination := by
  obtain ⟨same, route⟩ := config.file_route language name named
  obtain ⟨_, stands, leads⟩ := (disk.resolve_iff _ _).mp ready.reached
  rw [disk.resolve_iff]
  constructor
  · rintro ⟨usable, _, further⟩
    rw [same, route, leads.append] at further
    exact ⟨usable, further⟩
  · rintro ⟨usable, further⟩
    refine ⟨usable, ?_, ?_⟩
    · rw [Disk.HasStart, same]
      exact stands
    · rw [same, route, leads.append]
      exact further

/-- What leads to a file with a proper name in an output directory makes it readable. -/
theorem Ready.readable (ready : Ready config here language disk) (name : String)
    (named : Path.isName name = true) (destination : Destination)
    (resolved : disk.resolve (Path.join (config.outputPath language) name) = .ok destination) :
    IsReadable config language name := by
  obtain ⟨usable, leads⟩ := (ready.inside name named destination).mp resolved
  exact ⟨usable, named, leads.step named⟩

/-- The text of a readable file that stands in the output directory can be read. -/
theorem Ready.reads (ready : Ready config here language disk) (name text : String)
    (readable : IsReadable config language name)
    (stands : disk.node? (config.outputPlace here language ++ [name]) =
      some (.file (.text text))) :
    disk.readText (Path.join (config.outputPath language) name) = .ok text := by
  have resolved : disk.resolve (Path.join (config.outputPath language) name) =
      .ok (.file (config.outputPlace here language ++ [name]) (.text text)) :=
    (ready.inside name readable.named _).mpr ⟨readable.usable, .file _ name _ readable.step stands⟩
  simp [Disk.readText, Disk.read, resolved, bind, Except.bind]

/-- A session that writes a file with a proper name puts it in the output directory, in the place
of a file or of nothing. -/
theorem Session.write_file_exact (ready : Ready config here language disk)
    (schema name text : String)
    (named : Path.isName name = true)
    (written : (config.session language).writeFile schema
      (Path.join (config.outputPath language) name) text disk = (after, .ok ())) :
    after = disk.put (config.outputPlace here language ++ [name]) (.file (.text text)) ∧
      disk.node? (config.outputPlace here language ++ [name]) ≠ some .directory ∧
      IsReadable config language name := by
  have place : Path.location disk.here (Path.join (config.outputPath language) name) =
      config.outputPlace here language ++ [name] := by
    rw [ready.current]
    exact Path.location_inside here _ name named
  have prepared : (config.session language).prepareParent
      (Path.join (config.outputPath language) name) disk = (disk, .ok ()) := by
    simp [prepareParent, config.output_parent language name named, Config.session]
  rw [writeFile, prepared] at written
  simp only at written
  cases put : disk.write (Path.join (config.outputPath language) name) (.text text) with
  | error fault =>
    rw [put] at written
    cases written
  | ok changed =>
    rw [put] at written
    cases written
    obtain ⟨changed, free, destination, resolved⟩ := Disk.write_exact _ _ ready.tree put
    rw [place] at changed free
    exact ⟨changed, free, ready.readable name named destination resolved⟩

end Writing

section Steps

-- Comparing steps must look neither into the writing of files nor into the texts of paths.
attribute [local irreducible] Session.writeFile Path.join

variable {session : Session} {disk after : Disk}

/-- A support file is loaded and written before those behind it. -/
theorem Session.copy_support_cons (session : Session) (resource : String)
    (resources : List String) (disk : Disk) :
    session.copySupport (resource :: resources) disk =
      match session.templates.load disk resource with
      | .error failure => (disk, .error failure)
      | .ok text =>
        match session.writeFile resource (session.supportPath resource) text disk with
        | (disk, .error failure) => (disk, .error failure)
        | (disk, .ok ()) =>
          match session.copySupport resources disk with
          | (disk, .error failure) => (disk, .error failure)
          | (disk, .ok paths) => (disk, .ok (session.supportPath resource :: paths)) :=
  rfl

/-- A message that is written has been rendered, and its file has been written. -/
theorem Session.write_message_steps {message : Message} {path : String}
    (written : session.writeMessage message disk = (after, .ok path)) :
    ∃ text, message.render session.language session.templates disk = .ok text ∧
      path = session.messagePath message ∧
      session.writeFile message.name path text disk = (after, .ok ()) := by
  rw [writeMessage] at written
  split at written
  · cases written
  · rename_i text rendered
    simp only at written
    split at written
    · cases written
    · rename_i changed file
      cases written
      exact ⟨text, rendered, rfl, file⟩

/-- Messages that are written have been written one after the other. -/
theorem Session.write_messages_steps {message : Message} {messages : List Message}
    {paths : List String}
    (written : session.writeMessages (message :: messages) disk = (after, .ok paths)) :
    ∃ between path others, session.writeMessage message disk = (between, .ok path) ∧
      session.writeMessages messages between = (after, .ok others) ∧ paths = path :: others := by
  rw [writeMessages] at written
  split at written
  · cases written
  · rename_i between path first
    split at written
    · cases written
    · rename_i changed others rest
      cases written
      exact ⟨between, path, others, first, rest, rfl⟩

/-- Support files that are copied have been loaded and written one after the other. -/
theorem Session.copy_support_steps {resource : String} {resources paths : List String}
    (copied : session.copySupport (resource :: resources) disk = (after, .ok paths)) :
    ∃ text between others, session.templates.load disk resource = .ok text ∧
      session.writeFile resource (session.supportPath resource) text disk = (between, .ok ()) ∧
      session.copySupport resources between = (after, .ok others) ∧
      paths = session.supportPath resource :: others := by
  rw [copy_support_cons] at copied
  split at copied
  · cases copied
  · rename_i text loaded
    split at copied
    · cases copied
    · rename_i between file
      split at copied
      · cases copied
      · rename_i changed others rest
        cases copied
        exact ⟨text, between, others, loaded, file, rest, rfl⟩

/-- A manager file that is written comes behind the support files and has been rendered. -/
theorem Session.write_manager_steps {slots : List (Option Message)} {paths : List String}
    (written : session.writeManager slots disk = (after, .ok paths)) :
    ∃ between others text,
      session.copySupport session.language.layout.supportFiles disk = (between, .ok others) ∧
      renderManager session.language session.templates between slots = .ok text ∧
      session.writeFile session.language.layout.managerFile
        (Path.join session.outputDirectory session.language.layout.managerFile) text between =
        (after, .ok ()) ∧
      paths =
        others ++ [Path.join session.outputDirectory session.language.layout.managerFile] := by
  rw [writeManager] at written
  simp only at written
  split at written
  · cases written
  · rename_i between others copied
    split at written
    · cases written
    · rename_i text rendered
      split at written
      · cases written
      · rename_i changed file
        cases written
        exact ⟨between, others, text, copied, rendered, file, rfl⟩

end Steps

/-- The disk with files in a directory. -/
def Disk.putFiles (disk : Disk) (place : Location) : List (String × String) → Disk
  | [] => disk
  | file :: files => (disk.put (place ++ [file.1]) (.file (.text file.2))).putFiles place files

end PacketSmith
