import TinyC.CommandLine.FileSystem

/-!
# What stands where

A file system is known by what stands at each location: nothing, a file, a
program or a device with what is in it, or a directory.  An entry that is put
where nothing or no directory stood changes what stands there and nothing else,
and a path that led there still does.

## Strategy

Two locations agree up to some name.  What was put at one of them is found
there; above it there are directories before and after; below it there is
nothing before and after; and where the other location parts from it, no child
was touched.  Following a path only asks whether there is a directory and
whether a name is in it, so it cannot tell the two trees apart.
-/

namespace TinyC

/-! ## Trees -/

namespace Entry

variable {entry new : Entry} {location other : Location}

/-- An entry by itself, without what a directory has in it. -/
def alone : Entry → Entry
  | .directory _ => .directory []
  | entry => entry

theorem at?_append (entry : Entry) (first second : Location) :
    entry.at? (first ++ second) = (entry.at? first).bind fun child => child.at? second := by
  induction first generalizing entry with
  | nil => rfl
  | cons name first ih =>
      cases entry with
      | directory children =>
          rw [List.cons_append, at?, at?]
          cases children.lookup name with
          | none => rfl
          | some child => exact ih child
      | file content => rfl
      | program name => rfl
      | device device => rfl

/-- Only in a directory stands something. -/
theorem exists_directory_of_at? {name : String} {child : Entry}
    (hchild : entry.at? (name :: location) = some child) :
    ∃ children, entry = .directory children := by
  cases entry with
  | directory children => exact ⟨children, rfl⟩
  | file content => cases hchild
  | program name => cases hchild
  | device device => cases hchild

/-- What is in a directory. -/
def children : Entry → List (String × Entry)
  | .directory children => children
  | _ => []

theorem at?_cons (entry : Entry) (name : String) (location : Location) :
    entry.at? (name :: location) =
      (entry.children.lookup name).bind fun child => child.at? location := by
  cases entry <;> rfl

theorem put_cons (entry new : Entry) (name : String) (location : Location) :
    entry.put (name :: location) new =
      .directory ((name, ((entry.children.lookup name).getD (.directory [])).put location new) ::
        entry.children.filter fun child => child.1 ≠ name) := by
  cases entry <;> rfl

/-- What is put at a location is found there, with all that is below it. -/
theorem at?_put_append (entry new : Entry) (location below : Location) :
    (entry.put location new).at? (location ++ below) = new.at? below := by
  induction location generalizing entry with
  | nil => rfl
  | cons name location ih =>
      rw [put_cons, List.cons_append, at?_cons, children, List.lookup_cons_self]
      exact ih _

/-- Above what is put there are directories. -/
theorem at?_put_above (entry new : Entry) (above : Location) (name : String)
    (below : Location) :
    ∃ children, (entry.put (above ++ name :: below) new).at? above = some (.directory children) := by
  induction above generalizing entry with
  | nil => exact ⟨_, congrArg some (put_cons entry new name below)⟩
  | cons first above ih =>
      rw [List.cons_append, put_cons, at?_cons, children, List.lookup_cons_self]
      exact ih _

theorem lookup_filter_ne {name removed : String} (hne : name ≠ removed)
    (children : List (String × Entry)) :
    (children.filter fun child => child.1 ≠ removed).lookup name = children.lookup name := by
  induction children with
  | nil => rfl
  | cons child children ih =>
      obtain ⟨first, entry⟩ := child
      by_cases hfirst : first = removed
      · have hname : (name == first) = false := beq_false_of_ne (hfirst ▸ hne)
        rw [List.filter_cons_of_neg (by simpa using hfirst), ih, List.lookup_cons, hname]
      · rw [List.filter_cons_of_pos (by simpa using hfirst), List.lookup_cons, List.lookup_cons, ih]

/-- What is put leaves all that is neither above nor below it. -/
theorem at?_put_of_parted (entry new : Entry) (habove : ¬other <+: location)
    (hbelow : ¬location <+: other) : (entry.put location new).at? other = entry.at? other := by
  induction location generalizing entry other with
  | nil => exact absurd List.nil_prefix hbelow
  | cons name location ih =>
      cases other with
      | nil => exact absurd List.nil_prefix habove
      | cons first other =>
          rw [put_cons, at?_cons, at?_cons, children]
          by_cases hfirst : first = name
          · subst hfirst
            have hparted := ih ((entry.children.lookup first).getD (.directory []))
              (fun hprefix => habove (List.cons_prefix_cons.2 ⟨rfl, hprefix⟩))
              (fun hprefix => hbelow (List.cons_prefix_cons.2 ⟨rfl, hprefix⟩))
            rw [List.lookup_cons_self, Option.bind_some, hparted]
            cases entry.children.lookup first with
            | some child => rfl
            | none =>
                -- A directory that was made on the way has nothing else in it.
                cases other with
                | nil => exact absurd (List.cons_prefix_cons.2 ⟨rfl, List.nil_prefix⟩) habove
                | cons second other => rfl
          · rw [List.lookup_cons, beq_false_of_ne hfirst]
            dsimp only
            rw [lookup_filter_ne hfirst]

end Entry

/-! ## Locations -/

namespace FileSystem

variable {files after : FileSystem} {path : String} {location other backwards place : Location}
  {parts : List String} {standing : Option Entry} {entry new : Entry}

/-- What stands at a location by itself. -/
def standsAt? (files : FileSystem) (location : Location) : Option Entry :=
  (files.root.at? location).map Entry.alone

/-- At a location there is a directory. -/
def HasDirectoryAt (files : FileSystem) (location : Location) : Prop :=
  files.standsAt? location = some (.directory [])

theorem hasDirectoryAt_iff :
    files.HasDirectoryAt location ↔
      ∃ children, files.root.at? location = some (.directory children) := by
  rw [HasDirectoryAt, standsAt?, Option.map_eq_some_iff]
  constructor
  · rintro ⟨entry, hentry, halone⟩
    cases entry with
    | directory children => exact ⟨children, hentry⟩
    | file content => cases halone
    | program name => cases halone
    | device device => cases halone
  · rintro ⟨children, hentry⟩
    exact ⟨_, hentry, rfl⟩

/-- Every name before the last of a location leads to a directory. -/
def HasWayTo (files : FileSystem) (location : Location) : Prop :=
  ∀ above name below, location = above ++ name :: below → files.HasDirectoryAt above

theorem hasWayTo_of_at? (hentry : files.root.at? location = some entry) :
    files.HasWayTo location := by
  rintro above name below rfl
  rw [Entry.at?_append] at hentry
  obtain ⟨reached, hreached, hrest⟩ := Option.bind_eq_some_iff.1 hentry
  obtain ⟨children, rfl⟩ := Entry.exists_directory_of_at? hrest
  exact hasDirectoryAt_iff.2 ⟨children, hreached⟩

/-- Only directories have children. -/
theorem children_eq_nil (hfree : ¬files.HasDirectoryAt location)
    (hentry : files.root.at? location = some entry) : entry.children = [] := by
  cases entry with
  | directory children => exact absurd (hasDirectoryAt_iff.2 ⟨children, hentry⟩) hfree
  | file content => rfl
  | program name => rfl
  | device device => rfl

/-- An entry without children that is put where no directory stood changes what stands there and
nothing else. -/
theorem standsAt?_put (hway : files.HasWayTo location) (hfree : ¬files.HasDirectoryAt location)
    (hnew : new.children = []) (other : Location) :
    (files.put location new).standsAt? other =
      if other = location then some new.alone else files.standsAt? other := by
  rw [standsAt?, standsAt?, put]
  by_cases hsame : other = location
  · have hput := Entry.at?_put_append files.root new location []
    rw [List.append_nil] at hput
    rw [if_pos hsame, hsame, hput]
    rfl
  rw [if_neg hsame]
  by_cases hbelow : location <+: other
  · -- Below, there is nothing before and after.
    obtain ⟨below, rfl⟩ := hbelow
    cases below with
    | nil => exact absurd (List.append_nil location) hsame
    | cons name below =>
        rw [Entry.at?_put_append, Entry.at?_cons, hnew, Entry.at?_append]
        cases hentry : files.root.at? location with
        | none => rfl
        | some entry =>
            rw [Option.bind_some, Entry.at?_cons, children_eq_nil hfree hentry]
  by_cases habove : other <+: location
  · obtain ⟨below, rfl⟩ := habove
    cases below with
    | nil => exact absurd (List.append_nil other).symm hsame
    | cons name below =>
        obtain ⟨former, hformer⟩ := hasDirectoryAt_iff.1 (hway other name below rfl)
        obtain ⟨children, hchildren⟩ := Entry.at?_put_above files.root new other name below
        rw [hformer, hchildren]
        rfl
  · rw [Entry.at?_put_of_parted _ _ habove hbelow]

/-! ## Paths -/

/-- Parts of a path lead from one location to another, both given backwards. -/
inductive Leads (files : FileSystem) : Location → List String → Location → Prop
  | here {backwards : Location} : Leads files backwards [] backwards
  | stay {backwards place : Location} {rest : List String}
      (hdirectory : files.HasDirectoryAt backwards.reverse)
      (hrest : Leads files backwards rest place) : Leads files backwards ("." :: rest) place
  | up {backwards place : Location} {rest : List String}
      (hdirectory : files.HasDirectoryAt backwards.reverse)
      (hrest : Leads files backwards.tail rest place) : Leads files backwards (".." :: rest) place
  | enter {backwards place : Location} {part : String} {rest : List String}
      (hdirectory : files.HasDirectoryAt backwards.reverse) (hdot : part ≠ ".") (hdots : part ≠ "..")
      (hshort : Text.byteLength part.toList ≤ nameLimit)
      (hrest : Leads files (part :: backwards) rest place) :
      Leads files backwards (part :: rest) place

/-- Where parts lead is a matter of the directories alone. -/
theorem Leads.of_directories
    (hdirectories : ∀ location, files.HasDirectoryAt location → after.HasDirectoryAt location)
    (hleads : files.Leads backwards parts place) : after.Leads backwards parts place := by
  induction hleads with
  | here => exact .here
  | stay hdirectory _ ih => exact .stay (hdirectories _ hdirectory) ih
  | up hdirectory _ ih => exact .up (hdirectories _ hdirectory) ih
  | enter hdirectory hdot hdots hshort _ ih =>
      exact .enter (hdirectories _ hdirectory) hdot hdots hshort ih

/-- Where parts lead, there is a way. -/
theorem Leads.hasWayTo (hleads : files.Leads backwards parts place)
    (hway : files.HasWayTo backwards.reverse) : files.HasWayTo place.reverse := by
  induction hleads with
  | here => exact hway
  | stay _ _ ih => exact ih hway
  | @up backwards _ _ _ _ ih =>
      refine ih fun above name below hsplit => ?_
      cases backwards with
      | nil => exact hway above name below hsplit
      | cons last backwards =>
          rw [List.tail_cons] at hsplit
          refine hway above name (below ++ [last]) ?_
          rw [List.reverse_cons, hsplit, List.append_assoc, List.cons_append]
  | @enter backwards _ part _ hdirectory _ _ _ _ ih =>
      refine ih fun above name below hsplit => ?_
      rw [List.reverse_cons] at hsplit
      rcases List.eq_nil_or_concat below with rfl | ⟨front, last, rfl⟩
      · obtain ⟨rfl, -⟩ := List.append_inj' hsplit rfl
        exact hdirectory
      · rw [List.concat_eq_append, ← List.cons_append, ← List.append_assoc] at hsplit
        exact hway above name front (List.append_inj' hsplit rfl).1

theorem leads_nil_iff : files.Leads backwards [] place ↔ backwards = place :=
  ⟨fun hleads => by cases hleads; rfl, fun heq => heq ▸ .here⟩

theorem leads_cons_iff {part : String} {rest : List String} :
    files.Leads backwards (part :: rest) place ↔ files.HasDirectoryAt backwards.reverse ∧
      if part = "." then files.Leads backwards rest place
      else if part = ".." then files.Leads backwards.tail rest place
      else Text.byteLength part.toList ≤ nameLimit ∧ files.Leads (part :: backwards) rest place := by
  constructor
  · intro hleads
    cases hleads with
    | stay hdirectory hrest => exact ⟨hdirectory, hrest⟩
    | up hdirectory hrest => exact ⟨hdirectory, hrest⟩
    | enter hdirectory hdot hdots hshort hrest =>
        exact ⟨hdirectory, by rw [if_neg hdot, if_neg hdots]; exact ⟨hshort, hrest⟩⟩
  · rintro ⟨hdirectory, hrest⟩
    by_cases hdot : part = "."
    · rw [if_pos hdot] at hrest
      exact hdot ▸ .stay hdirectory hrest
    by_cases hdots : part = ".."
    · rw [if_neg hdot, if_pos hdots] at hrest
      exact hdots ▸ .up hdirectory hrest
    · rw [if_neg hdot, if_neg hdots] at hrest
      exact .enter hdirectory hdot hdots hrest.1 hrest.2

/-- Above something there is something. -/
theorem exists_at?_tail (hentry : files.root.at? backwards.reverse = some entry) :
    ∃ above, files.root.at? backwards.tail.reverse = some above := by
  cases backwards with
  | nil => exact ⟨entry, hentry⟩
  | cons last backwards =>
      rw [List.reverse_cons, Entry.at?_append] at hentry
      obtain ⟨above, habove, -⟩ := Option.bind_eq_some_iff.1 hentry
      exact ⟨above, habove⟩

/-- Following parts gives where they lead and what stands there. -/
theorem follow_eq_ok_iff (hentry : files.root.at? backwards.reverse = some entry) :
    files.follow backwards entry parts = .ok (place, standing) ↔
      files.Leads backwards parts place ∧ files.root.at? place.reverse = standing := by
  induction parts generalizing backwards entry with
  | nil =>
      rw [follow, leads_nil_iff, Except.ok.injEq, Prod.mk.injEq, ← hentry]
      exact and_congr_right fun heq => heq ▸ Iff.rfl
  | cons part rest ih =>
      rw [leads_cons_iff, hasDirectoryAt_iff, hentry]
      cases entry with
      | file content => simp [follow]
      | program name => simp [follow]
      | device device => simp [follow]
      | directory children =>
          have hdirectory : ∃ known, some (Entry.directory children) = some (.directory known) :=
            ⟨children, rfl⟩
          rw [follow, and_iff_right hdirectory]
          by_cases hdot : part = "."
          · rw [if_pos hdot, if_pos hdot]
            exact ih hentry
          rw [if_neg hdot, if_neg hdot]
          by_cases hdots : part = ".."
          · rw [if_pos hdots, if_pos hdots]
            obtain ⟨above, habove⟩ := exists_at?_tail hentry
            dsimp only
            rw [habove, Option.getD_some]
            exact ih habove
          rw [if_neg hdots, if_neg hdots]
          by_cases hlong : nameLimit < Text.byteLength part.toList
          · simp [hlong, Nat.not_le.2 hlong]
          rw [if_neg hlong, and_iff_right (Nat.le_of_not_lt hlong)]
          have hchild : files.root.at? (part :: backwards).reverse = children.lookup part := by
            rw [List.reverse_cons, Entry.at?_append, hentry, Option.bind_some, Entry.at?_cons,
              Entry.children]
            cases children.lookup part <;> rfl
          cases hlookup : children.lookup part with
          | some child =>
              rw [hlookup] at hchild
              exact ih hchild
          | none =>
              rw [hlookup] at hchild
              cases rest with
              | nil =>
                  rw [leads_nil_iff, List.isEmpty_nil, if_pos rfl, Except.ok.injEq, Prod.mk.injEq,
                    ← hchild]
                  exact and_congr_right fun heq => heq ▸ Iff.rfl
              | cons next rest =>
                  rw [leads_cons_iff, hasDirectoryAt_iff, hchild]
                  simp

/-- What a path leads to, and what stands there. -/
theorem find_eq_ok_iff :
    files.find path = .ok (place, standing) ↔
      (¬path.isEmpty ∧ Text.byteLength path.toList ≤ pathLimit ∧
          ∃ entry, files.root.at? (files.start path) = some entry) ∧
        files.Leads (files.start path).reverse (Path.parts path) place ∧
          files.root.at? place.reverse = standing := by
  rw [find, followFor]
  by_cases hempty : path.isEmpty = true
  · simp [hempty]
  by_cases hlong : pathLimit < Text.byteLength path.toList
  · simp [hempty, hlong, Nat.not_le.2 hlong]
  rw [if_neg hempty, if_neg hlong]
  dsimp only
  cases hstart : files.root.at? (files.start path) with
  | none => simp
  | some entry =>
      have hshort := Nat.le_of_not_lt hlong
      have hreverse : files.root.at? (files.start path).reverse.reverse = some entry := by
        rw [List.reverse_reverse, hstart]
      rw [and_iff_right ⟨hempty, hshort, entry, rfl⟩]
      exact follow_eq_ok_iff hreverse

/-- To what a path leads, there is a way. -/
theorem hasWayTo_of_find (hfind : files.find path = .ok (place, standing)) :
    files.HasWayTo place.reverse := by
  obtain ⟨⟨-, -, entry, hentry⟩, hleads, -⟩ := find_eq_ok_iff.1 hfind
  refine hleads.hasWayTo ?_
  rw [List.reverse_reverse]
  exact hasWayTo_of_at? hentry

/-- What is put where a path found no directory is found by the same path. -/
theorem find_put (hfind : files.find path = .ok (place, standing)) (hnew : new.children = [])
    (hfree : ¬files.HasDirectoryAt place.reverse) :
    (files.put place.reverse new).find path = .ok (place, some new) := by
  have hway := hasWayTo_of_find hfind
  obtain ⟨⟨hempty, hshort, entry, hentry⟩, hleads, -⟩ := find_eq_ok_iff.1 hfind
  have hput := standsAt?_put hway hfree hnew
  refine find_eq_ok_iff.2 ⟨⟨hempty, hshort, ?_⟩, ?_, ?_⟩
  · -- The directory at which the path starts is still there.
    have hstart : (files.put place.reverse new).standsAt? (files.start path) ≠ none := by
      rw [hput, standsAt?, hentry]
      split <;> exact Option.some_ne_none _
    exact Option.ne_none_iff_exists'.1 fun hnone => hstart (congrArg (Option.map _) hnone)
  · refine hleads.of_directories fun location hdirectory => ?_
    rw [HasDirectoryAt, hput, if_neg]
    · exact hdirectory
    · rintro rfl
      exact hfree hdirectory
  · have hnew := Entry.at?_put_append files.root new place.reverse []
    rwa [List.append_nil] at hnew

end FileSystem

/-! ## Plain names -/

namespace Path

/-- A name is in no directory, and has no extension. -/
structure IsPlain (name : String) : Prop where
  ne_empty : name ≠ ""
  not_slash : '/' ∉ name.toList
  not_dot : '.' ∉ name.toList

theorem stretches_of_not_mem {text : List Char} (hslash : '/' ∉ text) : stretches text = [text] := by
  induction text with
  | nil => rfl
  | cons c text ih =>
      obtain ⟨hc, htext⟩ := List.ne_and_not_mem_of_not_mem_cons hslash
      rw [stretches, if_neg hc.symm, ih htext]

namespace IsPlain

variable {name : String}

theorem toList_ne_nil (hplain : IsPlain name) : name.toList ≠ [] :=
  fun hnil => hplain.ne_empty (String.toList_eq_nil_iff.1 hnil)

theorem parts_eq (hplain : IsPlain name) : parts name = [name] := by
  have hkept : ([name.toList].filter fun stretch => !stretch.isEmpty) = [name.toList] := by
    simp [hplain.toList_ne_nil]
  rw [parts, stretches_of_not_mem hplain.not_slash, hkept, List.map_singleton, String.ofList_toList]

theorem isAbsolute_eq (hplain : IsPlain name) : isAbsolute name = false := by
  rw [isAbsolute, decide_eq_false_iff_not]
  exact fun hfirst => hplain.not_slash (List.mem_of_mem_head? hfirst)

theorem asksForDirectory_eq (hplain : IsPlain name) : asksForDirectory name = false := by
  rw [asksForDirectory, decide_eq_false_iff_not]
  exact fun hlast => hplain.not_slash (List.mem_of_getLast? hlast)

end IsPlain

end Path

namespace FileSystem

variable {name : String}

theorem addFile_of_isPlain (files : FileSystem) (content : List UInt8)
    (hplain : Path.IsPlain name) :
    files.addFile name content = files.put (files.workingDirectory ++ [name]) (.file content) := by
  rw [addFile, start, hplain.isAbsolute_eq, hplain.parts_eq]
  rfl

/-- A file that is added under a plain name is found under it. -/
theorem find_addFile (files : FileSystem) (content : List UInt8) (hplain : Path.IsPlain name)
    (hshort : Text.byteLength name.toList ≤ nameLimit) :
    (files.addFile name content).find name =
      .ok (name :: files.workingDirectory.reverse, some (.file content)) := by
  have hdirectory := Entry.at?_put_above files.root (.file content) files.workingDirectory name []
  have hfile := Entry.at?_put_append files.root (.file content) (files.workingDirectory ++ [name]) []
  have hdot : name ≠ "." := fun heq => hplain.not_dot (heq ▸ by decide)
  have hdots : name ≠ ".." := fun heq => hplain.not_dot (heq ▸ by decide)
  rw [List.append_nil] at hfile
  have hlimit : nameLimit ≤ pathLimit := by decide
  rw [addFile_of_isPlain files content hplain, find_eq_ok_iff, start, hplain.isAbsolute_eq, hplain.parts_eq, leads_cons_iff,
    if_neg hdot, if_neg hdots, hasDirectoryAt_iff, List.reverse_cons]
  dsimp only [put]
  rw [if_neg Bool.false_ne_true, List.reverse_reverse]
  obtain ⟨children, hchildren⟩ := hdirectory
  refine ⟨⟨?_, Nat.le_trans hshort hlimit, _, hchildren⟩, ⟨⟨children, hchildren⟩, hshort, .here⟩, hfile⟩
  simpa using hplain.ne_empty

end FileSystem

end TinyC
