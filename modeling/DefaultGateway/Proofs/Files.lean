import DefaultGateway.Files
import DefaultGateway.Proofs.Step

/-!
# What has been written is read

Writing and renaming neither make nor remove a directory, so a path leads afterwards where it led
before. Main statements: `read_write` and `read_rename`, with `exists_write_iff`
and `exists_rename_iff` for when the steps succeed.
-/

namespace DefaultGateway.Host

variable {h g : Host} {place other : Location}

/-! ## Places -/

theorem lookup_filter_ne (entries : List (Location × Entry)) (apart : other ≠ place) :
    (entries.filter (·.1 != place)).lookup other = entries.lookup other := by
  induction entries with
  | nil => rfl
  | cons entry rest inductionHypothesis =>
      obtain ⟨taken, found⟩ := entry
      by_cases here : taken = place
      · have elsewhere : (other == taken) = false := by simpa [here] using apart
        rw [List.filter_cons_of_neg (by simp [here]), inductionHypothesis, List.lookup_cons,
          elsewhere]
      · rw [List.filter_cons_of_pos (by simpa using here), List.lookup_cons, List.lookup_cons,
          inductionHypothesis]

theorem lookup_filter_self (entries : List (Location × Entry)) :
    (entries.filter (·.1 != place)).lookup place = none := by
  refine List.lookup_eq_none_iff.2 fun kept member => ?_
  have apart : kept.1 ≠ place := by simpa using (List.mem_filter.1 member).2
  simpa using apart.symm

theorem find?_drop_of_ne (apart : other ≠ place) : (h.drop place).find? other = h.find? other := by
  rw [find?, find?, drop, lookup_filter_ne h.entries apart]

theorem find?_put_of_ne (entry : Entry) (apart : other ≠ place) :
    (h.put place entry).find? other = h.find? other := by
  have elsewhere : [(place, entry)].lookup other = none := by
    simpa using apart
  rw [find?, find?, put, List.lookup_append, elsewhere, Option.or_none,
    lookup_filter_ne h.entries apart]

theorem find?_put_self (entry : Entry) (noOrigin : place.isOrigin = false) :
    (h.put place entry).find? place = some entry := by
  rw [find?, if_neg (by simp [noOrigin]), put, List.lookup_append, lookup_filter_self]
  simp

/-- The places from which paths begin are directories. -/
theorem isOrigin_eq_false_of_not_directory (noDirectory : h.find? place ≠ some .directory) :
    place.isOrigin = false := by
  cases origin : place.isOrigin with
  | false => rfl
  | true => exact absurd (by rw [find?, if_pos origin]) noDirectory

/-! ## Directories -/

/-- Both hosts have the same directories. -/
def SameDirectories (h g : Host) : Prop :=
  ∀ place, h.find? place = some .directory ↔ g.find? place = some .directory

theorem SameDirectories.symm (same : h.SameDirectories g) : g.SameDirectories h :=
  fun place => (same place).symm

theorem SameDirectories.trans {k : Host} (same : h.SameDirectories g)
    (others : g.SameDirectories k) : h.SameDirectories k :=
  fun place => (same place).trans (others place)

theorem sameDirectories_put (noDirectory : h.find? place ≠ some .directory) (text : String) :
    h.SameDirectories (h.put place (.file text)) := by
  intro other
  by_cases here : other = place
  · rw [here, find?_put_self _ (isOrigin_eq_false_of_not_directory noDirectory)]
    simp [noDirectory]
  · rw [find?_put_of_ne _ here]

theorem sameDirectories_drop (noDirectory : h.find? place ≠ some .directory) :
    h.SameDirectories (h.drop place) := by
  intro other
  by_cases here : other = place
  · have gone : (h.drop place).find? place = none := by
      rw [find?, if_neg (by simp [isOrigin_eq_false_of_not_directory noDirectory]), drop,
        lookup_filter_self]
    rw [here, gone]
    simp [noDirectory]
  · rw [find?_drop_of_ne here]

/-! ## Paths -/

/-- A path leads where it led, as long as no directory has gone. -/
theorem SameDirectories.walk (same : h.SameDirectories g) {parts : List String}
    {start : Location} (leads : h.walk start parts = .ok place) :
    g.walk start parts = .ok place := by
  induction parts generalizing start with
  | nil => exact leads
  | cons part rest inductionHypothesis =>
      cases found : h.find? start with
      | none => simp [Host.walk, found] at leads
      | some entry =>
          cases entry with
          | file text => simp [Host.walk, found] at leads
          | binary bytes notText => simp [Host.walk, found] at leads
          | directory =>
              simp only [Host.walk, found, (same start).1 found] at leads ⊢
              by_cases here : part = "" ∨ part = "."
              · rw [if_pos here] at leads ⊢
                exact inductionHypothesis leads
              · by_cases back : part = ".."
                · rw [if_neg here, if_pos back] at leads ⊢
                  exact inductionHypothesis leads
                · by_cases long : maxNameLength < part.utf8ByteSize
                  · rw [if_neg here, if_neg back, if_pos long] at leads
                    cases leads
                  · rw [if_neg here, if_neg back, if_neg long] at leads ⊢
                    exact inductionHypothesis leads

theorem SameDirectories.locate (same : h.SameDirectories g) {path : String}
    (leads : h.locate path = .ok place) : g.locate path = .ok place := by
  unfold Host.locate at leads
  split at leads
  · cases leads
  · rename_i noZero
    split at leads
    · cases leads
    · rename_i named
      split at leads
      · cases leads
      · rename_i short
        rw [Host.locate, if_neg noZero, if_neg named, if_neg short]
        split at leads
        · exact same.walk leads
        · exact same.walk leads

/-- A file can be written to the path: it leads to a place with no directory in it. -/
def Offers (h : Host) (path : String) : Prop :=
  ∃ place, h.locate path = .ok place ∧ h.find? place ≠ some .directory

theorem SameDirectories.offers_iff (same : h.SameDirectories g) (path : String) :
    h.Offers path ↔ g.Offers path := by
  have carried {h g : Host} (same : h.SameDirectories g) (offered : h.Offers path) :
      g.Offers path := by
    obtain ⟨place, leads, noDirectory⟩ := offered
    exact ⟨place, same.locate leads, fun directory => noDirectory ((same place).2 directory)⟩
  exact ⟨carried same, carried same.symm⟩

/-! ## Steps -/

variable {path text : String}

theorem runFrom_find (path : String) (h : Host) :
    (find path).runFrom h = ((h.locate path).mapError .io, h) := by
  rw [find, Step.runFrom_bind, Step.runFrom_get]
  dsimp only
  cases h.locate path <;> rfl

theorem runFrom_findFile (path : String) (h : Host) :
    (findFile path).runFrom h =
      match h.locate path with
      | .ok place =>
        if h.find? place = some .directory then (.error (.io (.system .isDirectory)), h)
        else (.ok place, h)
      | .error fault => (.error (.io fault), h) := by
  rw [findFile, Step.runFrom_bind, runFrom_find]
  cases h.locate path with
  | error fault => rfl
  | ok place =>
      dsimp only [Except.mapError]
      rw [Step.runFrom_bind, Step.runFrom_get]
      dsimp only
      by_cases directory : h.find? place = some .directory
      · rw [if_pos directory, if_pos directory]
        rfl
      · rw [if_neg directory, if_neg directory]
        rfl

theorem findFile_eq_ok_iff :
    (findFile path).runFrom h = (.ok place, g) ↔
      g = h ∧ h.locate path = .ok place ∧ h.find? place ≠ some .directory := by
  rw [runFrom_findFile]
  constructor
  · intro ended
    split at ended
    · split at ended
      · cases ended
      · cases ended
        exact ⟨rfl, ‹_›, ‹_›⟩
    · cases ended
  · rintro ⟨rfl, leads, noDirectory⟩
    simp only [leads, if_neg noDirectory]

theorem read_eq_ok_iff :
    (read path).runFrom h = (.ok text, g) ↔
      g = h ∧ ∃ place, h.locate path = .ok place ∧ h.find? place = some (.file text) := by
  constructor
  · intro ended
    obtain ⟨place, t, first, last⟩ := Step.ok_of_runFrom_bind ended
    obtain ⟨rfl, leads, -⟩ := findFile_eq_ok_iff.1 first
    rw [Step.runFrom_bind, Step.runFrom_get] at last
    dsimp only at last
    split at last
    · cases last
      exact ⟨rfl, place, leads, ‹_›⟩
    · cases last
    · cases last
  · rintro ⟨rfl, place, leads, found⟩
    have first := findFile_eq_ok_iff.2 ⟨rfl, leads, by simp [found]⟩
    rw [read, Step.runFrom_bind_of_ok first, Step.runFrom_bind, Step.runFrom_get]
    simp only [found]
    rfl

theorem write_eq_ok_iff :
    (write path text).runFrom h = (.ok (), g) ↔
      ∃ place, h.locate path = .ok place ∧ h.find? place ≠ some .directory ∧
        g = h.put place (.file text) := by
  constructor
  · intro ended
    obtain ⟨place, t, first, last⟩ := Step.ok_of_runFrom_bind ended
    obtain ⟨rfl, leads, noDirectory⟩ := findFile_eq_ok_iff.1 first
    cases last
    exact ⟨place, leads, noDirectory, rfl⟩
  · rintro ⟨place, leads, noDirectory, rfl⟩
    rw [write, Step.runFrom_bind_of_ok (findFile_eq_ok_iff.2 ⟨rfl, leads, noDirectory⟩),
      Step.runFrom_modify]

/-- A file takes another path if there is a place for it, and leaves its own. -/
theorem rename_eq_ok_iff {source target : String} (held : (read source).runFrom h = (.ok text, h)) :
    (rename source target).runFrom h = (.ok (), g) ↔
      ∃ origin place, h.find? origin ≠ some .directory ∧ h.locate source = .ok origin ∧
        h.locate target = .ok place ∧ h.find? place ≠ some .directory ∧
        g = (h.drop origin).put place (.file text) := by
  obtain ⟨-, origin, found, file⟩ := read_eq_ok_iff.1 held
  have noSource : h.find? origin ≠ some .directory := by simp [file]
  rw [rename, Step.runFrom_bind_of_ok (findFile_eq_ok_iff.2 ⟨rfl, found, noSource⟩),
    Step.runFrom_bind, Step.runFrom_get]
  simp only [file]
  constructor
  · intro ended
    obtain ⟨place, t, second, last⟩ := Step.ok_of_runFrom_bind ended
    obtain ⟨rfl, leads, noTarget⟩ := findFile_eq_ok_iff.1 second
    cases last
    exact ⟨origin, place, noSource, found, leads, noTarget, rfl⟩
  · rintro ⟨other, place, -, foundToo, leads, noTarget, rfl⟩
    obtain rfl : origin = other := Except.ok.inj (found.symm.trans foundToo)
    rw [Step.runFrom_bind_of_ok (findFile_eq_ok_iff.2 ⟨rfl, leads, noTarget⟩), Step.runFrom_modify]

/-! ## When steps succeed -/

theorem exists_write_iff :
    (∃ g, (write path text).runFrom h = (.ok (), g)) ↔ h.Offers path := by
  constructor
  · rintro ⟨g, ended⟩
    obtain ⟨place, leads, noDirectory, -⟩ := write_eq_ok_iff.1 ended
    exact ⟨place, leads, noDirectory⟩
  · rintro ⟨place, leads, noDirectory⟩
    exact ⟨_, write_eq_ok_iff.2 ⟨place, leads, noDirectory, rfl⟩⟩

theorem sameDirectories_write (ended : (write path text).runFrom h = (.ok (), g)) :
    h.SameDirectories g := by
  obtain ⟨place, -, noDirectory, rfl⟩ := write_eq_ok_iff.1 ended
  exact sameDirectories_put noDirectory text

theorem exists_rename_iff {source target : String}
    (held : (read source).runFrom h = (.ok text, h)) :
    (∃ g, (rename source target).runFrom h = (.ok (), g)) ↔ h.Offers target := by
  obtain ⟨-, origin, found, file⟩ := read_eq_ok_iff.1 held
  constructor
  · rintro ⟨g, ended⟩
    obtain ⟨-, place, -, -, leads, noTarget, -⟩ := (rename_eq_ok_iff held).1 ended
    exact ⟨place, leads, noTarget⟩
  · rintro ⟨place, leads, noTarget⟩
    exact ⟨_, (rename_eq_ok_iff held).2
      ⟨origin, place, by simp [file], found, leads, noTarget, rfl⟩⟩

/-! ## What is read then -/

/-- A text that has been put where there was no directory is read by any path that led there. -/
theorem read_put (leads : h.locate path = .ok place) (noDirectory : h.find? place ≠ some .directory)
    (same : h.SameDirectories g) :
    (read path).runFrom (g.put place (.file text)) = (.ok text, g.put place (.file text)) := by
  have put : (g.put place (.file text)).find? place = some (.file text) :=
    find?_put_self (.file text) (isOrigin_eq_false_of_not_directory noDirectory)
  have stillNone : g.find? place ≠ some .directory :=
    fun directory => noDirectory ((same place).2 directory)
  have leadsStill := (same.trans (sameDirectories_put stillNone text)).locate leads
  exact read_eq_ok_iff.2 ⟨rfl, place, leadsStill, put⟩

/-- What has been written to a path is read from it. -/
theorem read_write (ended : (write path text).runFrom h = (.ok (), g)) :
    (read path).runFrom g = (.ok text, g) := by
  obtain ⟨place, leads, noDirectory, rfl⟩ := write_eq_ok_iff.1 ended
  exact read_put leads noDirectory fun _ => .rfl

/-- A file is read from the path that it has been given. -/
theorem read_rename {source target : String}
    (held : (read source).runFrom h = (.ok text, h))
    (ended : (rename source target).runFrom h = (.ok (), g)) :
    (read target).runFrom g = (.ok text, g) := by
  obtain ⟨origin, place, noSource, -, leads, noTarget, rfl⟩ := (rename_eq_ok_iff held).1 ended
  exact read_put leads noTarget (sameDirectories_drop noSource)

/-! ## Elsewhere -/

/-- What is found where a path leads. -/
def entryAt (h : Host) (path : String) : Except FileFault (Option Entry) :=
  (h.locate path).map h.find?

theorem runFrom_read (path : String) (h : Host) :
    (read path).runFrom h =
      (match h.entryAt path with
        | .error fault => .error (.io fault)
        | .ok (some (.file text)) => .ok text
        | .ok (some (.binary ..)) => .error (.io .notText)
        | .ok (some .directory) => .error (.io (.system .isDirectory))
        | .ok none => .error (.io (.system .noEntry)), h) := by
  rw [read, Step.runFrom_bind, runFrom_findFile, entryAt]
  cases h.locate path with
  | error fault => rfl
  | ok place =>
      simp only [Except.map]
      cases found : h.find? place with
      | none =>
          rw [if_neg (by simp)]
          simp only [Step.runFrom_bind, Step.runFrom_get, found]
          rfl
      | some entry =>
          cases entry with
          | directory => rfl
          | file text =>
              rw [if_neg (by simp)]
              simp only [Step.runFrom_bind, Step.runFrom_get, found]
              rfl
          | binary bytes notText =>
              rw [if_neg (by simp)]
              simp only [Step.runFrom_bind, Step.runFrom_get, found]
              rfl

theorem state_read (path : String) (h : Host) : ((read path).runFrom h).2 = h := by
  rw [runFrom_read]

/-- What is read depends on what is found alone. -/
theorem read_congr (same : g.entryAt path = h.entryAt path) :
    ((read path).runFrom g).1 = ((read path).runFrom h).1 := by
  rw [runFrom_read, runFrom_read, same]

theorem entryAt_congr (same : h.SameDirectories g) (leads : h.locate path = .ok place)
    (found : g.find? place = h.find? place) : g.entryAt path = h.entryAt path := by
  rw [entryAt, entryAt, leads, same.locate leads, Except.map, Except.map, found]

theorem walk_withSignals (h : Host) (signals : Nat) (start : Location) (parts : List String) :
    ({ h with signals := signals } : Host).walk start parts = h.walk start parts := by
  induction parts generalizing start with
  | nil => rfl
  | cons part rest inductionHypothesis =>
      simp only [walk, inductionHypothesis]
      rfl

/-- No path leads elsewhere for a signal. -/
theorem entryAt_withSignals (path : String) (h : Host) (signals : Nat) :
    ({ h with signals := signals } : Host).entryAt path = h.entryAt path := by
  simp only [entryAt, locate, walk_withSignals]
  rfl

/-- Nothing but the files is different. -/
structure SameButFiles (h g : Host) : Prop where
  directories : h.SameDirectories g
  pid : g.pid = h.pid
  signals : g.signals = h.signals

theorem SameButFiles.trans {k : Host} (first : h.SameButFiles g) (second : g.SameButFiles k) :
    h.SameButFiles k where
  directories := first.directories.trans second.directories
  pid := second.pid.trans first.pid
  signals := second.signals.trans first.signals

theorem sameButFiles_write (ended : (write path text).runFrom h = (.ok (), g)) :
    h.SameButFiles g := by
  have directories := sameDirectories_write ended
  obtain ⟨place, -, -, rfl⟩ := write_eq_ok_iff.1 ended
  exact ⟨directories, rfl, rfl⟩

theorem sameButFiles_rename {source target : String}
    (held : (read source).runFrom h = (.ok text, h))
    (ended : (rename source target).runFrom h = (.ok (), g)) : h.SameButFiles g := by
  obtain ⟨origin, place, noSource, -, -, noTarget, rfl⟩ := (rename_eq_ok_iff held).1 ended
  have dropped := sameDirectories_drop noSource
  refine ⟨dropped.trans (sameDirectories_put (fun directory => ?_) text), rfl, rfl⟩
  exact noTarget ((dropped place).2 directory)

/-- Where a file can be written, it can be touched; what other places hold stays. -/
theorem touch_of_offers (offered : h.Offers path) :
    ∃ g, (touch path).runFrom h = (.ok (), g) ∧ h.SameButFiles g ∧
      ∀ other, h.locate path ≠ .ok other → g.find? other = h.find? other := by
  obtain ⟨place, leads, noDirectory⟩ := offered
  have first := findFile_eq_ok_iff.2 ⟨rfl, leads, noDirectory⟩
  rw [touch, Step.runFrom_bind_of_ok first, Step.runFrom_bind, Step.runFrom_get]
  dsimp only
  by_cases absent : (h.find? place).isNone = true
  · rw [if_pos absent]
    refine ⟨_, rfl, ⟨sameDirectories_put noDirectory "", rfl, rfl⟩, fun other elsewhere => ?_⟩
    refine find?_put_of_ne _ fun same => elsewhere ?_
    rw [same, leads]
  · rw [if_neg absent]
    exact ⟨h, rfl, ⟨fun _ => .rfl, rfl, rfl⟩, fun _ _ => rfl⟩

end DefaultGateway.Host
