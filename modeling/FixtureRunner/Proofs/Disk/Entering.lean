/-
Walking into folders.

A path at which a folder is found enters that folder, through links if need be.  Extended by
the name of something in the folder, it leads there.
-/

import FixtureRunner.Proofs.Disk.Access
import FixtureRunner.Proofs.Path.Components

namespace FixtureRunner

namespace Disk

/-! ### Reaching folders -/

inductive Spot.Opens (disk : Disk) : Spot → Location → Prop
  | dots (folder : Location) : Opens disk (.folder folder) folder
  | name {folder : Location} {name : String} {closed : Bool}
      (isFolder : disk.entryAt? (folder ++ [name]) = some .folder) :
      Opens disk (.name folder name closed) (folder ++ [name])

theorem Reaches.of_blank {disk : Disk} {links : Nat} {start reached : Location}
    {segments : List String} (reaches : disk.Reaches links start (segments ++ [""]) reached) :
    disk.Reaches links start segments reached := by
  obtain ⟨first, second, between, rfl, begins, blank⟩ := reaches.split
  generalize isLast : [""] = last at blank
  cases blank with
  | arrived => cases isLast
  | stay _ further =>
      cases isLast
      cases further
      exact begins
  | up _ => simp at isLast
  | down isName _ _ _ | follow isName _ _ _ =>
      cases isLast
      exact absurd rfl isName.1

theorem reaches_of_settle_look {disk : Disk} {room : Nat} {start folder : Location}
    {segments : List String} {spot : Spot}
    (settled : disk.settle .look room start segments = .ok spot) (opens : spot.Opens disk folder) :
    ∃ links, links < room ∧ disk.Reaches links start segments folder := by
  rw [settle_eq_ok_iff] at settled
  induction settled with
  | @folder _ start _ segments stops =>
      have spec := stops_advance disk start segments
      rw [stops] at spec
      cases spec with
      | folder reaches =>
          cases opens
          exact ⟨0, by omega, reaches⟩
  | @name _ start _ segments _ _ stops _ fits _ =>
      have spec := stops_advance disk start segments
      rw [stops] at spec
      cases spec with
      | last isCut reaches isName areBlank _ =>
          cases opens with
          | name isFolder =>
              have below := Reaches.down isName (Nat.le_of_not_lt fits) isFolder
                (reaches_blanks disk _ areBlank)
              exact ⟨0, by omega, isCut ▸ reaches.append below⟩
  | @follow _ start _ segments _ _ closed _ stops _ fits _ isLink _ ih =>
      obtain ⟨links, isFew, further⟩ := ih opens
      have reachesTarget := by
        cases closed
        · exact List.append_nil _ ▸ further
        · exact further.of_blank
      have spec := stops_advance disk start segments
      rw [stops] at spec
      cases spec with
      | last isCut reaches isName areBlank _ =>
          have behind := reachesTarget.append (reaches_blanks disk folder areBlank)
          have below := Reaches.follow isName (Nat.le_of_not_lt fits) isLink behind
          exact ⟨_, by omega, isCut ▸ reaches.append below⟩
  | @pass _ start _ segments _ _ _ stops _ ih =>
      obtain ⟨links, isFew, further⟩ := ih opens
      have spec := stops_advance disk start segments
      rw [stops] at spec
      cases spec with
      | link isCut reaches isName _ fits isLink =>
          exact ⟨_, by omega, isCut ▸ reaches.append (.follow isName fits isLink further)⟩

/-! ### Entering folders -/

structure IsProper (name : String) : Prop where
  isName : IsName name
  fits : name.utf8ByteSize ≤ nameLimit
  isFree : '/' ∉ name.toList
  hasNoNul : '\x00' ∉ name.toList

structure Enters (disk : Disk) (path : Path) (folder : Location) : Prop where
  isNonempty : path.text ≠ ""
  hasNoNul : path.text.toList.contains '\x00' = false
  reaches : ∃ links, links ≤ linkLimit ∧
    disk.Reaches links (origin disk.here path.text) (segmentsOf path.text) folder

section Enters

variable {disk : Disk} {path : Path} {folder : Location} {name : String}

theorem enters_of_find (isFound : disk.find path = .ok (folder, .folder)) :
    disk.Enters path folder := by
  rw [find] at isFound
  cases routed : disk.route .look path with
  | error cause => simp [routed, bind, Except.bind] at isFound
  | ok spot =>
      obtain ⟨hasNoNul, isNonempty, _, settled⟩ := route_eq_ok_iff.mp routed
      have opens : spot.Opens disk folder := by
        simp only [routed, bind, Except.bind] at isFound
        cases spot with
        | folder location =>
            cases isFound
            exact .dots folder
        | name above last closed =>
            cases found : disk.entryAt? (above ++ [last]) with
            | none => simp [found, throw, throwThe, MonadExceptOf.throw] at isFound
            | some entry =>
                simp only [found] at isFound
                cases entry with
                | file content executable =>
                    cases closed <;> cases isFound
                | folder =>
                    cases isFound
                    exact .name found
                | link target => cases isFound
      obtain ⟨links, isFew, reaches⟩ := reaches_of_settle_look settled opens
      exact ⟨isNonempty, hasNoNul, links, by omega, reaches⟩

theorem Enters.walks (enters : disk.Enters path folder) (isProper : IsProper name) :
    (path.join ⟨name⟩).text ≠ "" ∧ (path.join ⟨name⟩).text.toList.contains '\x00' = false ∧
      ∃ leading links, segmentsOf (path.join ⟨name⟩).text = leading ++ [name] ∧
        links ≤ linkLimit ∧
        disk.Reaches links (origin disk.here (path.join ⟨name⟩).text) leading folder := by
  obtain ⟨links, isFew, reaches⟩ := enters.reaches
  obtain ⟨separator, isSeparator, text⟩ := Path.text_join enters.isNonempty isProper.isFree
  obtain ⟨leading, segments, isPath⟩ := Path.segments_join enters.isNonempty isProper.isFree
  have sameOrigin : origin disk.here (path.join ⟨name⟩).text = origin disk.here path.text := by
    obtain ⟨first, rest, isText⟩ := List.exists_cons_of_ne_nil fun isEmpty =>
      enters.isNonempty (String.toList_eq_nil_iff.mp isEmpty)
    rw [origin, origin, Path.isAbsolute, Path.isAbsolute, text, String.toList_append,
      String.toList_append, isText]
    rfl
  refine ⟨?_, ?_, leading.map String.ofList, links, ?_, isFew, ?_⟩
  · intro isEmpty
    rw [isEmpty] at text
    have parts := String.append_eq_empty_iff.mp text.symm
    exact isProper.isName.1 parts.2
  · have isClear : '\x00' ∉ separator.toList := by
      rcases isSeparator with rfl | rfl <;> decide
    rw [text, String.toList_append, String.toList_append, List.contains_append,
      List.contains_append, enters.hasNoNul]
    simp [isClear, isProper.hasNoNul]
  · rw [segmentsOf, segments, List.map_append, List.map_singleton, String.ofList_toList]
  · rw [sameOrigin]
    rcases isPath with isPath | isPath
    · rw [segmentsOf, isPath] at reaches
      exact reaches
    · rw [segmentsOf, isPath, List.map_append, List.map_singleton] at reaches
      exact reaches.of_blank

theorem Enters.join (enters : disk.Enters path folder) (isProper : IsProper name)
    (isFolder : disk.entryAt? (folder ++ [name]) = some .folder) :
    disk.Enters (path.join ⟨name⟩) (folder ++ [name]) := by
  obtain ⟨isNonempty, hasNoNul, leading, links, segments, isFew, reaches⟩ := enters.walks isProper
  refine ⟨isNonempty, hasNoNul, links, isFew, ?_⟩
  rw [segments]
  exact reaches.append (.down isProper.isName isProper.fits isFolder (.arrived _))

theorem Enters.leads (enters : disk.Enters path folder) (isProper : IsProper name)
    (fits : (path.join ⟨name⟩).text.utf8ByteSize < pathLimit) :
    disk.Leads (path.join ⟨name⟩) folder name := by
  obtain ⟨_, hasNoNul, walks⟩ := enters.walks isProper
  exact ⟨isProper.isName, isProper.fits, hasNoNul, fits, walks⟩

end Enters

end Disk

end FixtureRunner
