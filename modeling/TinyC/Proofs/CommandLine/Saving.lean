import TinyC.Proofs.CommandLine.FileSystem
import TinyC.Proofs.Text.Bytes

/-!
# Saved texts

A text is saved at a path after the directories on the way have been made.
Whoever finds that it was saved also finds it at the path, unless a device
stands there, which takes the text.  Besides, there can be directories where
nothing was, and all else is as it was before.

## Strategy

Making directories only adds some, whether it comes to its end or not.  Writing
then puts one file where nothing or a file stood, or changes no file at all.
-/

namespace TinyC.FileSystem

variable {before between after files made : FileSystem} {path text : String}
  {place location : Location} {standing : Option Entry} {paths : List String} {written : Written}

/-! ## Directories -/

/-- Nothing stands at a location anew but directories, and nothing is gone. -/
def AddsDirectoriesAt (before after : FileSystem) (location : Location) : Prop :=
  after.standsAt? location = before.standsAt? location ∨
    before.standsAt? location = none ∧ after.HasDirectoryAt location

/-- A file system is another one with more directories. -/
structure AddsDirectories (before after : FileSystem) : Prop where
  workingDirectory_eq : after.workingDirectory = before.workingDirectory
  addsAt : ∀ location, AddsDirectoriesAt before after location

namespace AddsDirectories

theorem refl (files : FileSystem) : AddsDirectories files files := ⟨rfl, fun _ => .inl rfl⟩

theorem trans (hfirst : AddsDirectories before between) (hsecond : AddsDirectories between after) :
    AddsDirectories before after := by
  refine ⟨hsecond.workingDirectory_eq.trans hfirst.workingDirectory_eq, fun location => ?_⟩
  rcases hfirst.addsAt location with hsame | ⟨hnone, hdirectory⟩
  · rcases hsecond.addsAt location with hstill | ⟨hnone, hdirectory⟩
    · exact .inl (hstill.trans hsame)
    · exact .inr ⟨hsame ▸ hnone, hdirectory⟩
  · rcases hsecond.addsAt location with hstill | ⟨hmissing, -⟩
    · exact .inr ⟨hnone, hstill.trans hdirectory⟩
    · cases hmissing.symm.trans hdirectory

end AddsDirectories

theorem addsDirectories_of_makeDirectory (hmade : files.makeDirectory path = .ok made) :
    AddsDirectories files made := by
  rw [makeDirectory] at hmade
  cases hfind : files.find path with
  | error error => simp [hfind, bind, Except.bind] at hmade
  | ok led =>
      obtain ⟨place, standing⟩ := led
      rw [hfind] at hmade
      cases standing with
      | some entry => cases hmade
      | none =>
          obtain rfl := Except.ok.inj hmade
          have hnone : files.standsAt? place.reverse = none := by
            rw [standsAt?, (find_eq_ok_iff.1 hfind).2.2]
            rfl
          have hfree : ¬files.HasDirectoryAt place.reverse := by
            intro hdirectory
            cases hnone.symm.trans hdirectory
          have hput := @standsAt?_put files _ (.directory []) (hasWayTo_of_find hfind) hfree rfl
          refine ⟨rfl, fun location => ?_⟩
          rw [AddsDirectoriesAt, HasDirectoryAt, hput]
          by_cases hsame : location = place.reverse
          · rw [if_pos hsame, hsame]
            exact .inr ⟨hnone, rfl⟩
          · rw [if_neg hsame]
            exact .inl rfl

/-- Whether all directories can be made or not, nothing but directories is added. -/
theorem addsDirectories_makeDirectories (files : FileSystem) (paths : List String) :
    AddsDirectories files (files.makeDirectories paths).2 := by
  induction paths with
  | nil => exact .refl files
  | cons path above ih =>
      rw [makeDirectories]
      split
      · exact .refl files
      cases hmade : files.makeDirectory path with
      | ok made => exact addsDirectories_of_makeDirectory hmade
      | error error =>
          dsimp only
          split
          · generalize files.makeDirectories above = result at ih
            obtain ⟨outcome, made⟩ := result
            cases outcome with
            | error error => exact ih
            | ok done =>
                dsimp only
                cases hcomplete : made.makeDirectory path with
                | ok complete => exact ih.trans (addsDirectories_of_makeDirectory hcomplete)
                | error error =>
                    dsimp only
                    split <;> exact ih
          · split <;> exact .refl files

/-! ## Files -/

/-- A path that asks for a directory leads to no file. -/
theorem findFile_eq_ok_iff {led : Location × Option Entry} :
    files.findFile path = .ok led ↔
      Path.asksForDirectory path = false ∧ files.find path = .ok led := by
  rw [findFile]
  by_cases hasks : Path.asksForDirectory path = true
  · rw [if_pos hasks]
    cases files.followFor path (Path.parts path).dropLast with
    | error error => simp [hasks, bind, Except.bind]
    | ok holding =>
        obtain ⟨place, standing⟩ := holding
        cases standing with
        | none => simp [hasks, bind, Except.bind, throw, throwThe, MonadExceptOf.throw]
        | some entry =>
            cases entry <;> simp [hasks, bind, Except.bind, throw, throwThe, MonadExceptOf.throw]
  · simp [hasks]

/-- A text that is written goes to a device that takes it, or replaces what a file held. -/
theorem writeText_eq_ok (hwritten : files.writeText path text = .ok written) :
    ∃ place standing, files.find path = .ok (place, standing) ∧
      Path.asksForDirectory path = false ∧
        ((∃ device, standing = some (.device device)) ∧ written.files = files ∨
          (standing = none ∨ ∃ content, standing = some (.file content)) ∧
            written.files = files.put place.reverse (.file (Text.encode text))) := by
  rw [writeText] at hwritten
  cases hfind : files.findFile path with
  | error error => simp [hfind, bind, Except.bind] at hwritten
  | ok led =>
      obtain ⟨place, standing⟩ := led
      obtain ⟨hasks, hled⟩ := findFile_eq_ok_iff.1 hfind
      refine ⟨place, standing, hled, hasks, ?_⟩
      rw [hfind] at hwritten
      cases standing with
      | none => exact .inr ⟨.inl rfl, by obtain rfl := Except.ok.inj hwritten; rfl⟩
      | some entry =>
          cases entry with
          | file content =>
              exact .inr ⟨.inr ⟨content, rfl⟩, by obtain rfl := Except.ok.inj hwritten; rfl⟩
          | program name => cases hwritten
          | directory children => cases hwritten
          | device device =>
              refine .inl ⟨⟨device, rfl⟩, ?_⟩
              cases device with
              | full =>
                  -- Where there is no room, there is room for nothing.
                  change (if text.isEmpty then .ok ⟨files, "", ""⟩ else .error .noSpace) =
                    (.ok written : Except FileError Written) at hwritten
                  split at hwritten
                  · obtain rfl := Except.ok.inj hwritten
                    rfl
                  · cases hwritten
              | terminal => cases hwritten
              | null => obtain rfl := Except.ok.inj hwritten; rfl
              | output => obtain rfl := Except.ok.inj hwritten; rfl
              | errors => obtain rfl := Except.ok.inj hwritten; rfl

/-- The outcome of making the directory that holds what a path names, and the file system after
it. -/
def makeParent (files : FileSystem) (path : String) : Except FileError Unit × FileSystem :=
  match Path.parent? path with
  | none => (.ok (), files)
  | some directory => files.makeDirectories (Path.ancestors directory)

theorem addsDirectories_makeParent (files : FileSystem) (path : String) :
    AddsDirectories files (files.makeParent path).2 := by
  rw [makeParent]
  cases Path.parent? path with
  | none => exact .refl files
  | some directory => exact addsDirectories_makeDirectories files _

theorem save_eq (files : FileSystem) (path text : String) :
    files.save path text =
      match (files.makeParent path).1 with
      | .error error => (.error error, ⟨(files.makeParent path).2, "", ""⟩)
      | .ok () =>
          match (files.makeParent path).2.writeText path text with
          | .error error => (.error error, ⟨(files.makeParent path).2, "", ""⟩)
          | .ok written => (.ok (), written) := rfl

/-- What was saved was written after its directory had been made. -/
theorem save_eq_ok (hsaved : files.save path text = (.ok (), written)) :
    (files.makeParent path).2.writeText path text = .ok written := by
  rw [save_eq] at hsaved
  cases hmade : (files.makeParent path).1 with
  | error error => simp [hmade] at hsaved
  | ok done =>
      cases hwritten : (files.makeParent path).2.writeText path text with
      | error error => simp [hmade, hwritten] at hsaved
      | ok complete =>
          rw [hmade, hwritten] at hsaved
          rw [(Prod.mk.inj hsaved).2]

/-! ## Saved texts -/

/-- A text was saved at a path, which leads to a place with an entry. -/
structure SavedAt (before after : FileSystem) (path text : String) (place : Location)
    (entry : Entry) : Prop where
  workingDirectory_eq : after.workingDirectory = before.workingDirectory
  found : after.find path = .ok (place, some entry)
  /-- A file has the text and nothing else; a device stood there before. -/
  holds : entry = .file (Text.encode text) ∧ after.readText path = .ok text ∨
    ∃ device, entry = .device device ∧ before.standsAt? place.reverse = some entry
  /-- Everywhere else, directories were added at most. -/
  others : ∀ location ≠ place.reverse, AddsDirectoriesAt before after location

theorem readText_of_file {content : List UInt8}
    (hfind : files.find path = .ok (place, some (.file content)))
    (hasks : Path.asksForDirectory path = false) (hcontent : Text.decode? content = some text) :
    files.readText path = .ok text := by
  simp [readText, hfind, hasks, hcontent, bind, Except.bind, pure, Except.pure]

theorem readText_addFile {name : String} (files : FileSystem) (text : String)
    (hplain : Path.IsPlain name) (hshort : Text.byteLength name.toList ≤ nameLimit) :
    (files.addFile name (Text.encode text)).readText name = .ok text :=
  readText_of_file (find_addFile files _ hplain hshort) hplain.asksForDirectory_eq
    (Text.decode?_encode text)

/-- A device that has taken a text stood there before. -/
theorem savedAt_device {device : Device} (hadds : AddsDirectories files made)
    (hfind : made.find path = .ok (place, some (.device device))) :
    SavedAt files made path text place (.device device) := by
  refine ⟨hadds.workingDirectory_eq, hfind, .inr ⟨device, rfl, ?_⟩,
    fun location _ => hadds.addsAt location⟩
  have hdevice : made.standsAt? place.reverse = some (.device device) := by
    rw [standsAt?, (find_eq_ok_iff.1 hfind).2.2]
    rfl
  rcases hadds.addsAt place.reverse with hsame | ⟨-, hdirectory⟩
  · exact hsame.symm.trans hdevice
  · cases hdirectory.symm.trans hdevice

/-- A file that was put where no directory stood has the text. -/
theorem savedAt_file (hadds : AddsDirectories files made)
    (hfind : made.find path = .ok (place, standing))
    (hasks : Path.asksForDirectory path = false) (hfree : ¬made.HasDirectoryAt place.reverse) :
    SavedAt files (made.put place.reverse (.file (Text.encode text))) path text place
      (.file (Text.encode text)) := by
  have hput := @standsAt?_put made _ (.file (Text.encode text)) (hasWayTo_of_find hfind) hfree rfl
  have hfound := @find_put made path place standing (.file (Text.encode text)) hfind rfl hfree
  refine ⟨hadds.workingDirectory_eq, hfound,
    .inl ⟨rfl, readText_of_file hfound hasks (Text.decode?_encode text)⟩, fun location hother => ?_⟩
  rw [AddsDirectoriesAt, HasDirectoryAt, hput, if_neg hother]
  exact hadds.addsAt location

/-- What was saved is found at its path. -/
theorem exists_savedAt (hsaved : files.save path text = (.ok (), written)) :
    ∃ place entry, SavedAt files written.files path text place entry := by
  have hadds := addsDirectories_makeParent files path
  obtain ⟨place, standing, hfind, hasks, hcases⟩ := writeText_eq_ok (save_eq_ok hsaved)
  rcases hcases with ⟨⟨device, rfl⟩, hfiles⟩ | ⟨hstanding, hfiles⟩
  · exact ⟨place, .device device, hfiles ▸ savedAt_device hadds hfind⟩
  · have hfree : ¬(files.makeParent path).2.HasDirectoryAt place.reverse := by
      intro hdirectory
      rw [HasDirectoryAt, standsAt?, (find_eq_ok_iff.1 hfind).2.2] at hdirectory
      rcases hstanding with rfl | ⟨content, rfl⟩
      · cases hdirectory
      · cases hdirectory
    exact ⟨place, _, hfiles ▸ savedAt_file hadds hfind hasks hfree⟩

end TinyC.FileSystem
