/-
Where siblings lead.

All that a walk along the leading segments of a path does is to pass through folders and
links.  Where it arrives does therefore not depend on the last name, nor on the purpose,
and it stays the same as long as no folder and no link is taken away.  Two paths that
differ in the last name lead to two places in one folder.
-/

import FixtureRunner.Disk.Access
import FixtureRunner.Proofs.Disk.Entries

namespace FixtureRunner.Disk

/-- A segment that is the name of something in a folder. -/
def IsName (segment : String) : Prop :=
  segment ≠ "" ∧ segment ≠ "." ∧ segment ≠ ".."

/-! ### Walking along leading segments -/

/-- Following segments from a folder arrives in another; `links` links are replaced on
the way. -/
inductive Reaches (disk : Disk) : Nat → Location → List String → Location → Prop
  | arrived (folder : Location) : Reaches disk 0 folder [] folder
  | stay {links : Nat} {folder reached : Location} {segment : String} {rest : List String}
      (isNone : segment = "" ∨ segment = ".")
      (further : Reaches disk links folder rest reached) :
      Reaches disk links folder (segment :: rest) reached
  | up {links : Nat} {folder reached : Location} {rest : List String}
      (further : Reaches disk links folder.dropLast rest reached) :
      Reaches disk links folder (".." :: rest) reached
  | down {links : Nat} {folder reached : Location} {segment : String} {rest : List String}
      (isName : IsName segment) (fits : segment.utf8ByteSize ≤ nameLimit)
      (isFolder : disk.entryAt? (folder ++ [segment]) = some .folder)
      (further : Reaches disk links (folder ++ [segment]) rest reached) :
      Reaches disk links folder (segment :: rest) reached
  | follow {links : Nat} {folder reached : Location} {segment target : String}
      {rest : List String}
      (isName : IsName segment) (fits : segment.utf8ByteSize ≤ nameLimit)
      (isLink : disk.entryAt? (folder ++ [segment]) = some (.link target))
      (further : Reaches disk links (origin folder target) (segmentsOf target ++ rest) reached) :
      Reaches disk (links + 1) folder (segment :: rest) reached

section Reaches

variable {disk : Disk} {links more : Nat} {start reached further : Location}
  {segments rest : List String}

theorem Reaches.append (reaches : disk.Reaches links start segments reached)
    (goesOn : disk.Reaches more reached rest further) :
    disk.Reaches (links + more) start (segments ++ rest) further := by
  induction reaches with
  | arrived folder => rwa [Nat.zero_add, List.nil_append]
  | stay isNone _ ih => exact .stay isNone (ih goesOn)
  | up _ ih => exact .up (ih goesOn)
  | down isName fits isFolder _ ih => exact .down isName fits isFolder (ih goesOn)
  | follow isName fits isLink _ ih =>
      rw [Nat.add_right_comm, List.cons_append]
      refine .follow isName fits isLink ?_
      rw [← List.append_assoc]
      exact ih goesOn

theorem Reaches.split (reaches : disk.Reaches links start (segments ++ rest) reached) :
    ∃ first second between, links = first + second ∧
      disk.Reaches first start segments between ∧ disk.Reaches second between rest reached := by
  generalize isList : segments ++ rest = list at reaches
  induction reaches generalizing segments with
  | arrived folder =>
      obtain ⟨rfl, rfl⟩ := List.append_eq_nil_iff.mp isList
      exact ⟨0, 0, folder, rfl, .arrived folder, .arrived folder⟩
  | @stay links folder reached segment tail isNone further ih =>
      rcases List.append_eq_cons_iff.mp isList with ⟨rfl, rfl⟩ | ⟨others, rfl, rfl⟩
      · exact ⟨0, links, folder, (Nat.zero_add _).symm, .arrived folder, .stay isNone further⟩
      · obtain ⟨first, second, between, isSum, begins, goesOn⟩ := ih rfl
        exact ⟨first, second, between, isSum, .stay isNone begins, goesOn⟩
  | @up links folder reached tail further ih =>
      rcases List.append_eq_cons_iff.mp isList with ⟨rfl, rfl⟩ | ⟨others, rfl, rfl⟩
      · exact ⟨0, links, folder, (Nat.zero_add _).symm, .arrived folder, .up further⟩
      · obtain ⟨first, second, between, isSum, begins, goesOn⟩ := ih rfl
        exact ⟨first, second, between, isSum, .up begins, goesOn⟩
  | @down links folder reached segment tail isName fits isFolder further ih =>
      rcases List.append_eq_cons_iff.mp isList with ⟨rfl, rfl⟩ | ⟨others, rfl, rfl⟩
      · exact ⟨0, links, folder, (Nat.zero_add _).symm, .arrived folder,
          .down isName fits isFolder further⟩
      · obtain ⟨first, second, between, isSum, begins, goesOn⟩ := ih rfl
        exact ⟨first, second, between, isSum, .down isName fits isFolder begins, goesOn⟩
  | @follow links folder reached segment target tail isName fits isLink further ih =>
      rcases List.append_eq_cons_iff.mp isList with ⟨rfl, rfl⟩ | ⟨others, rfl, rfl⟩
      · exact ⟨0, links + 1, folder, (Nat.zero_add _).symm, .arrived folder,
          .follow isName fits isLink further⟩
      · obtain ⟨first, second, between, isSum, begins, goesOn⟩ := ih (List.append_assoc _ _ _)
        exact ⟨first + 1, second, between, by omega, .follow isName fits isLink begins, goesOn⟩

theorem reaches_blanks (disk : Disk) (folder : Location) {blanks : List String}
    (areBlank : blanks.all (· = "") = true) : disk.Reaches 0 folder blanks folder := by
  induction blanks with
  | nil => exact .arrived folder
  | cons blank rest ih =>
      simp only [List.all_cons, Bool.and_eq_true, decide_eq_true_eq] at areBlank
      exact .stay (Or.inl areBlank.1) (ih areBlank.2)

end Reaches

/-! ### Where a walk stops -/

/-- A walk has passed through folders, and stops behind all segments, at the last name, which
only separators follow, or at a link further inside. -/
inductive Stops (disk : Disk) (start : Location) (segments : List String) : Stop → Prop
  | folder {reached : Location} (reaches : disk.Reaches 0 start segments reached) :
      Stops disk start segments (.folder reached)
  | last {front blanks : List String} {place : Location} {name : String} {closed : Bool}
      (isCut : segments = front ++ name :: blanks) (reaches : disk.Reaches 0 start front place)
      (isName : IsName name) (areBlank : blanks.all (· = "") = true)
      (isClosed : closed = !blanks.isEmpty) : Stops disk start segments (.last place name closed)
  | link {front rest : List String} {place : Location} {name target : String}
      (isCut : segments = front ++ name :: rest) (reaches : disk.Reaches 0 start front place)
      (isName : IsName name) (isInner : rest ≠ []) (fits : name.utf8ByteSize ≤ nameLimit)
      (isLink : disk.entryAt? (place ++ [name]) = some (.link target)) :
      Stops disk start segments (.link place target rest)
  | failed (error : SystemError) : Stops disk start segments (.failed error)

variable {disk : Disk} {segments : List String}

theorem Stops.cons {start next : Location} {segment : String} {rest : List String} {stop : Stop}
    (stops : disk.Stops next rest stop)
    (begins : ∀ {front place}, disk.Reaches 0 next front place → disk.Reaches 0 start
      (segment :: front) place) : disk.Stops start (segment :: rest) stop := by
  cases stops with
  | folder reaches => exact .folder (begins reaches)
  | last isCut reaches isName areBlank isClosed =>
      exact .last (congrArg (segment :: ·) isCut) (begins reaches) isName areBlank isClosed
  | link isCut reaches isName isInner fits isLink =>
      exact .link (congrArg (segment :: ·) isCut) (begins reaches) isName isInner fits isLink
  | failed error => exact .failed error

theorem stops_advance (disk : Disk) (start : Location) (segments : List String) :
    disk.Stops start segments (disk.advance start segments) := by
  have isName {segment : String} (isNone : ¬ (segment = "" ∨ segment = "."))
      (isUp : segment ≠ "..") : IsName segment :=
    ⟨fun same => isNone (Or.inl same), fun same => isNone (Or.inr same), isUp⟩
  fun_induction advance disk start segments with
  | case1 start => exact .folder (.arrived start)
  | case2 start segment rest isNone ih => exact ih.cons fun reaches => .stay isNone reaches
  | case3 start rest isNone ih => exact ih.cons fun reaches => .up reaches
  | case4 start segment rest isNone isUp areBlank =>
      exact .last rfl (.arrived start) (isName isNone isUp) areBlank rfl
  | case5 => exact .failed _
  | case6 => exact .failed _
  | case7 start segment rest isNone isUp isInner isShort isFolder ih =>
      exact ih.cons fun reaches =>
        .down (isName isNone isUp) (Nat.le_of_not_lt isShort) isFolder reaches
  | case8 => exact .failed _
  | case9 start segment rest isNone isUp isInner isShort target isLink =>
      refine .link rfl (.arrived start) (isName isNone isUp) ?_ (Nat.le_of_not_lt isShort) isLink
      rintro rfl
      exact isInner rfl

/-- A walk that ends well, with fewer than `room` links on the way. -/
inductive Settles (disk : Disk) (purpose : Purpose) : Nat → Location → List String → Spot → Prop
  | folder {room : Nat} {start reached : Location} {segments : List String}
      (stops : disk.advance start segments = .folder reached) :
      Settles disk purpose (room + 1) start segments (.folder reached)
  | name {room : Nat} {start place : Location} {segments : List String} {name : String}
      {closed : Bool} (stops : disk.advance start segments = .last place name closed)
      (isAllowed : ¬ (purpose = .write ∧ closed = true)) (fits : ¬ nameLimit < name.utf8ByteSize)
      (isEnd : purpose ≠ .edit →
        ∀ target, disk.entryAt? (place ++ [name]) ≠ some (.link target)) :
      Settles disk purpose (room + 1) start segments (.name place name closed)
  | follow {room : Nat} {start place : Location} {segments : List String} {name target : String}
      {closed : Bool} {spot : Spot} (stops : disk.advance start segments = .last place name closed)
      (isAllowed : ¬ (purpose = .write ∧ closed = true)) (fits : ¬ nameLimit < name.utf8ByteSize)
      (isFollowing : purpose ≠ .edit)
      (isLink : disk.entryAt? (place ++ [name]) = some (.link target))
      (further : Settles disk purpose room (origin place target)
        (segmentsOf target ++ if closed then [""] else []) spot) :
      Settles disk purpose (room + 1) start segments spot
  | pass {room : Nat} {start place : Location} {segments rest : List String} {target : String}
      {spot : Spot} (stops : disk.advance start segments = .link place target rest)
      (further : Settles disk purpose room (origin place target) (segmentsOf target ++ rest)
        spot) :
      Settles disk purpose (room + 1) start segments spot

theorem settle_eq_ok_iff {purpose : Purpose} {room : Nat} {start : Location} {spot : Spot} :
    disk.settle purpose room start segments = .ok spot ↔
      disk.Settles purpose room start segments spot := by
  constructor
  · intro settled
    induction room generalizing start segments with
    | zero => cases settled
    | succ room ih =>
        rw [settle] at settled
        cases stops : disk.advance start segments with
        | folder reached =>
            rw [stops] at settled
            cases settled
            exact .folder stops
        | failed error =>
            rw [stops] at settled
            cases settled
        | link place target rest =>
            rw [stops] at settled
            exact .pass stops (ih settled)
        | last place name closed =>
            simp only [stops] at settled
            split at settled
            · cases settled
            · rename_i isAllowed
              split at settled
              · cases settled
              · rename_i fits
                split at settled
                · rename_i target isLink
                  split at settled
                  · rename_i isEdit
                    cases settled
                    exact .name stops isAllowed fits fun isFollowing => absurd isEdit isFollowing
                  · rename_i isFollowing
                    exact .follow stops isAllowed fits isFollowing isLink (ih settled)
                · rename_i isNoLink
                  cases settled
                  exact .name stops isAllowed fits fun _ => isNoLink
  · intro settles
    induction settles with
    | folder stops => rw [settle, stops]
    | name stops isAllowed fits isEnd =>
        simp only [settle, stops, isAllowed, fits, if_false]
        split
        · rename_i target isLink
          exact if_pos (Classical.byContradiction fun isFollowing =>
            isEnd isFollowing target isLink)
        · rfl
    | follow stops isAllowed fits isFollowing isLink _ ih =>
        simp only [settle, stops, isAllowed, fits, isFollowing, isLink, if_false, ih]
    | pass stops _ ih =>
        rw [settle, stops]
        exact ih

section Walk

variable (disk : Disk) (purpose : Purpose)

variable {segments : List String} {name : String} {folder : Location}

theorem settle_congr {first second : Location} {others : List String} (room : Nat)
    (same : disk.advance first segments = disk.advance second others) :
    disk.settle purpose room first segments = disk.settle purpose room second others := by
  cases room with
  | zero => rfl
  | succ room => simp only [settle, same]

theorem advance_stay (folder : Location) {segment : String} (rest : List String)
    (isNone : segment = "" ∨ segment = ".") :
    disk.advance folder (segment :: rest) = disk.advance folder rest := by
  rw [advance, if_pos isNone]

theorem advance_up (folder : Location) (rest : List String) :
    disk.advance folder (".." :: rest) = disk.advance folder.dropLast rest := by
  rw [advance, if_neg (by decide), if_pos rfl]

theorem advance_inner (folder : Location) {segment : String} {rest : List String}
    (isName : IsName segment) (isInner : rest.all (· = "") = false)
    (fits : segment.utf8ByteSize ≤ nameLimit) :
    disk.advance folder (segment :: rest) =
      match disk.entryAt? (folder ++ [segment]) with
      | none => .failed .missing
      | some .folder => disk.advance (folder ++ [segment]) rest
      | some (.file _ _) => .failed .notFolder
      | some (.link target) => .link folder target rest := by
  rw [advance, if_neg (not_or.mpr ⟨isName.1, isName.2.1⟩), if_neg isName.2.2,
    if_neg (by rw [isInner]; decide)]
  exact if_neg (Nat.not_lt.mpr fits)

theorem settle_of_reaches {links : Nat} {reached : Location} (room : Nat) {last : String}
    (isNonempty : last ≠ "") (reaches : disk.Reaches links folder segments reached) :
    disk.settle purpose (links + room) folder (segments ++ [last]) =
      disk.settle purpose room reached [last] := by
  have isInner (rest : List String) : (rest ++ [last]).all (· = "") = false := by
    simp [isNonempty]
  induction reaches with
  | arrived folder => rw [Nat.zero_add, List.nil_append]
  | stay isNone _further ih =>
      rw [← ih]
      exact settle_congr disk purpose _ (advance_stay disk _ _ isNone)
  | up _further ih =>
      rw [← ih]
      exact settle_congr disk purpose _ (advance_up disk _ _)
  | down isInnerName fits isFolder _further ih =>
      rw [← ih]
      apply settle_congr
      rw [List.cons_append, advance_inner disk _ isInnerName (isInner _) fits, isFolder]
  | @follow links folder reached segment target rest isInnerName fits isLink _further ih =>
      rw [← ih, Nat.add_right_comm, settle, List.cons_append,
        advance_inner disk _ isInnerName (isInner _) fits, isLink]
      simp only [List.append_assoc]

variable {disk purpose}

private theorem concat_eq_append {front rest : List String} (isMore : rest ≠ [])
    (isCut : segments ++ [name] = front ++ rest) :
    ∃ others, rest = others ++ [name] ∧ segments = front ++ others := by
  rw [← List.dropLast_concat_getLast isMore, ← List.append_assoc] at isCut
  obtain ⟨isFront, isLast⟩ := List.append_inj' isCut rfl
  refine ⟨rest.dropLast, ?_, isFront⟩
  rw [isLast, List.dropLast_concat_getLast isMore]

/-- Only separators can follow the name at which a walk stops. -/
theorem reaches_of_last {start place : Location} {found : String} {closed : Bool}
    (isName : IsName name)
    (stops : disk.advance start (segments ++ [name]) = .last place found closed) :
    disk.Reaches 0 start segments place := by
  have spec := stops_advance disk start (segments ++ [name])
  rw [stops] at spec
  cases spec with
  | @last front blanks _ _ _ isCut reaches _ areBlank _ =>
      by_cases isBare : blanks = []
      · subst isBare
        rwa [(List.append_inj' isCut rfl).1]
      · have isSplit := isCut.trans (List.append_cons _ _ _)
        obtain ⟨others, rfl, _⟩ := concat_eq_append isBare isSplit
        simp only [List.all_append, List.all_cons, Bool.and_eq_true, decide_eq_true_eq] at areBlank
        exact absurd areBlank.2.1 isName.1

theorem ends_of_last {start place : Location}
    (stops : disk.advance start segments = .last place name false) :
    ∃ leading, segments = leading ++ [name] ∧ IsName name := by
  have spec := stops_advance disk start segments
  rw [stops] at spec
  cases spec with
  | @last front blanks _ _ _ isCut _ isName _ isClosed =>
      cases blanks with
      | nil => exact ⟨front, isCut, isName⟩
      | cons blank others => cases isClosed

variable (disk purpose)

/-- The segments before the last one reach a folder, with a turn left for the last one. -/
theorem reaches_of_settle {room : Nat} {spot : Spot} (isName : IsName name)
    (settled : disk.settle purpose room folder (segments ++ [name]) = .ok spot) :
    ∃ links reached left, disk.Reaches links folder segments reached ∧
      room = links + (left + 1) := by
  rw [settle_eq_ok_iff] at settled
  generalize isList : segments ++ [name] = list at settled
  induction settled generalizing segments with
  | @folder room start reached list stops =>
      have spec := stops_advance disk start list
      rw [stops] at spec
      cases spec with
      | folder reaches =>
          subst isList
          obtain ⟨first, second, between, isSum, begins, _⟩ := reaches.split
          exact ⟨first, between, room, begins, by omega⟩
  | name stops _ _ _ =>
      subst isList
      exact ⟨0, _, _, reaches_of_last isName stops, (Nat.zero_add _).symm⟩
  | follow stops _ _ _ _ _ _ =>
      subst isList
      exact ⟨0, _, _, reaches_of_last isName stops, (Nat.zero_add _).symm⟩
  | @pass room start place list rest target spot stops _ ih =>
      have spec := stops_advance disk start list
      rw [stops] at spec
      cases spec with
      | link isCut reaches isFound isInner fits isLink =>
          have isSplit := (isList.trans isCut).trans (List.append_cons _ _ _)
          obtain ⟨others, rfl, rfl⟩ := concat_eq_append isInner isSplit
          obtain ⟨links, reached, left, further, count⟩ := ih (List.append_assoc _ _ _)
          rw [← List.append_cons]
          exact ⟨_, reached, left, reaches.append (.follow isFound fits isLink further), by omega⟩

/-- Only a path that ends in a name leads to a place that can hold a file. -/
theorem ends_of_settle {room : Nat} {reached : Location}
    (settled : disk.settle purpose room folder segments = .ok (.name reached name false)) :
    ∃ leading last, segments = leading ++ [last] ∧ IsName last := by
  rw [settle_eq_ok_iff] at settled
  generalize isSpot : Spot.name reached name false = spot at settled
  induction settled with
  | folder _ => cases isSpot
  | name stops _ _ _ =>
      cases isSpot
      obtain ⟨leading, isCut, isName⟩ := ends_of_last stops
      exact ⟨leading, _, isCut, isName⟩
  | @follow _ _ _ _ found target closed _ stops _ _ _ _ _ ih =>
      obtain ⟨leading, last, isEnd, isName⟩ := ih isSpot
      cases closed with
      | false =>
          obtain ⟨front, isCut, isFound⟩ := ends_of_last stops
          exact ⟨front, found, isCut, isFound⟩
      | true =>
          -- What follows a closed link ends in no name.
          cases (List.append_inj' isEnd rfl).2
          exact absurd rfl isName.1
  | @pass _ start _ list rest target _ stops _ ih =>
      obtain ⟨leading, last, isEnd, isName⟩ := ih isSpot
      have spec := stops_advance disk start list
      rw [stops] at spec
      cases spec with
      | @link front _ _ found _ isCut _ _ isInner _ _ =>
          obtain ⟨others, rfl, _⟩ := concat_eq_append isInner isEnd.symm
          refine ⟨front ++ found :: others, last, ?_, isName⟩
          rw [isCut, List.append_assoc, List.cons_append]

end Walk

/-! ### What keeps routes -/

/-- Every folder and every link is still there. -/
structure KeepsRoutes (before after : Disk) : Prop where
  here : after.here = before.here
  folders : ∀ location, before.entryAt? location = some .folder →
    after.entryAt? location = some .folder
  links : ∀ location target, before.entryAt? location = some (.link target) →
    after.entryAt? location = some (.link target)

/-- A change where neither a folder nor a link was keeps all routes. -/
theorem keepsRoutes_of_change {before after : Disk} {place : Location}
    (here : after.here = before.here)
    (elsewhere : ∀ location, location ≠ place →
      after.entryAt? location = before.entryAt? location)
    (isNoFolder : before.entryAt? place ≠ some .folder)
    (isNoLink : ∀ target, before.entryAt? place ≠ some (.link target)) :
    KeepsRoutes before after := by
  refine ⟨here, ?_, ?_⟩
  · intro location isFolder
    have isElsewhere : location ≠ place := by
      rintro rfl
      exact isNoFolder isFolder
    rw [elsewhere location isElsewhere, isFolder]
  · intro location target isLink
    have isElsewhere : location ≠ place := by
      rintro rfl
      exact isNoLink target isLink
    rw [elsewhere location isElsewhere, isLink]

theorem Reaches.mono {before after : Disk} (keeps : KeepsRoutes before after) {links : Nat}
    {folder reached : Location} (reaches : before.Reaches links folder segments reached) :
    after.Reaches links folder segments reached := by
  induction reaches with
  | arrived folder => exact .arrived folder
  | stay isNone _further ih => exact .stay isNone ih
  | up _further ih => exact .up ih
  | down isName fits isFolder _further ih =>
      exact .down isName fits (keeps.folders _ isFolder) ih
  | follow isName fits isLink _further ih =>
      exact .follow isName fits (keeps.links _ _ isLink) ih

/-! ### Routes that arrive -/

section Arrive

variable {before after : Disk} {purpose : Purpose} {path : Path} {spot : Spot}

theorem advance_mono (keeps : KeepsRoutes before after) (folder : Location)
    (segments : List String) :
    (∃ error, before.advance folder segments = .failed error) ∨
      after.advance folder segments = before.advance folder segments := by
  fun_induction advance before folder segments with
  | case1 folder => exact Or.inr rfl
  | case2 folder segment rest isNone ih =>
      rw [advance_stay after folder rest isNone]
      exact ih
  | case3 folder rest isNone ih =>
      rw [advance_up after folder rest]
      exact ih
  | case4 folder segment rest isNone isUp isLast =>
      right
      rw [advance, if_neg isNone, if_neg isUp, if_pos isLast]
  | case5 folder segment rest isNone isUp isLast isLong => exact Or.inl ⟨_, rfl⟩
  | case6 folder segment rest isNone isUp isLast isShort isFree => exact Or.inl ⟨_, rfl⟩
  | case7 folder segment rest isNone isUp isLast isShort isFolder ih =>
      rw [advance, if_neg isNone, if_neg isUp, if_neg isLast, if_neg isShort,
        keeps.folders _ isFolder]
      exact ih
  | case8 folder segment rest isNone isUp isLast isShort content executable isFile =>
      exact Or.inl ⟨_, rfl⟩
  | case9 folder segment rest isNone isUp isLast isShort target isLink =>
      right
      rw [advance, if_neg isNone, if_neg isUp, if_neg isLast, if_neg isShort,
        keeps.links _ _ isLink]

theorem settle_mono (keeps : KeepsRoutes before after)
    (makesNoLink : ∀ location target, after.entryAt? location = some (.link target) →
      before.entryAt? location = some (.link target)) {room : Nat} {folder : Location}
    {segments : List String} (settled : before.settle purpose room folder segments = .ok spot) :
    after.settle purpose room folder segments = .ok spot := by
  have same {start : Location} {segments : List String} {stop : Stop}
      (stops : before.advance start segments = stop) (isFine : ∀ error, stop ≠ .failed error) :
      after.advance start segments = stop := by
    rcases advance_mono keeps start segments with ⟨error, failed⟩ | same
    · exact absurd (stops.symm.trans failed) (isFine error)
    · rw [same, stops]
  rw [settle_eq_ok_iff] at settled ⊢
  induction settled with
  | folder stops => exact .folder (same stops nofun)
  | name stops isAllowed fits isEnd =>
      exact .name (same stops nofun) isAllowed fits fun isFollowing target isLink =>
        isEnd isFollowing target (makesNoLink _ _ isLink)
  | follow stops isAllowed fits isFollowing isLink _ ih =>
      exact .follow (same stops nofun) isAllowed fits isFollowing (keeps.links _ _ isLink) ih
  | pass stops _ ih => exact .pass (same stops nofun) ih

theorem route_eq_ok_iff {disk : Disk} :
    disk.route purpose path = .ok spot ↔
      path.text.toList.contains '\x00' = false ∧ path.text ≠ "" ∧
        path.text.utf8ByteSize < pathLimit ∧
        disk.settle purpose (linkLimit + 1) (origin disk.here path.text) (segmentsOf path.text) =
          .ok spot := by
  rw [route]
  constructor
  · intro routed
    split at routed
    · cases routed
    · rename_i hasNoNul
      split at routed
      · cases routed
      · rename_i isNonempty
        split at routed
        · cases routed
        · rename_i fits
          exact ⟨by simpa using hasNoNul, isNonempty, Nat.not_le.mp fits, routed⟩
  · rintro ⟨hasNoNul, isNonempty, fits, settled⟩
    rw [hasNoNul, if_neg (by decide), if_neg isNonempty, if_neg (Nat.not_le.mpr fits), settled]

/-- A path that leads somewhere still leads there if no folder and no link is taken away and
no link is made. -/
theorem route_mono (keeps : KeepsRoutes before after)
    (makesNoLink : ∀ location target, after.entryAt? location = some (.link target) →
      before.entryAt? location = some (.link target))
    (routed : before.route purpose path = .ok spot) : after.route purpose path = .ok spot := by
  obtain ⟨hasNoNul, isNonempty, fits, settled⟩ := route_eq_ok_iff.mp routed
  rw [← keeps.here] at settled
  exact route_eq_ok_iff.mpr ⟨hasNoNul, isNonempty, fits, settle_mono keeps makesNoLink settled⟩

theorem not_link_of_settle {disk : Disk} {room : Nat} {folder reached : Location}
    {segments : List String} {name : String} {closed : Bool} (isFollowing : purpose ≠ .edit)
    (settled : disk.settle purpose room folder segments = .ok (.name reached name closed))
    (target : String) : disk.entryAt? (reached ++ [name]) ≠ some (.link target) := by
  rw [settle_eq_ok_iff] at settled
  generalize isSpot : Spot.name reached name closed = spot at settled
  induction settled with
  | folder _ => cases isSpot
  | name _ _ _ isEnd =>
      cases isSpot
      exact isEnd isFollowing target
  | follow _ _ _ _ _ _ ih => exact ih isSpot
  | pass _ _ ih => exact ih isSpot

end Arrive

/-- A path that is read without a final separator is written where it is read. -/
theorem settle_write_of_look {room : Nat} {folder reached : Location} {name : String}
    (settled : disk.settle .look room folder segments = .ok (.name reached name false)) :
    disk.settle .write room folder segments = .ok (.name reached name false) := by
  rw [settle_eq_ok_iff] at settled ⊢
  generalize isSpot : Spot.name reached name false = spot at settled ⊢
  induction settled with
  | folder _ => cases isSpot
  | name stops _ fits isEnd =>
      cases isSpot
      exact .name stops (by simp) fits fun _ => isEnd (by decide)
  | @follow _ _ _ _ _ target closed _ stops _ fits _ isLink further ih =>
      cases closed with
      | false => exact .follow stops (by simp) fits (by decide) isLink (ih isSpot)
      | true =>
          subst isSpot
          obtain ⟨leading, last, isEnd, isName⟩ :=
            ends_of_settle disk .look (settle_eq_ok_iff.mpr further)
          cases (List.append_inj' isEnd rfl).2
          exact absurd rfl isName.1
  | pass stops _ ih => exact .pass stops (ih isSpot)

/-! ### Where a path leads -/

/-- A path leads to a name in a folder, and would lead there for every purpose. -/
structure Leads (disk : Disk) (path : Path) (folder : Location) (name : String) : Prop where
  isName : IsName name
  nameFits : name.utf8ByteSize ≤ nameLimit
  hasNoNul : path.text.toList.contains '\x00' = false
  pathFits : path.text.utf8ByteSize < pathLimit
  reaches : ∃ leading links, segmentsOf path.text = leading ++ [name] ∧ links ≤ linkLimit ∧
    disk.Reaches links (origin disk.here path.text) leading folder

section Leads

variable {disk : Disk} {path : Path} {folder : Location} {name : String}

theorem Leads.mono {after : Disk} (leads : disk.Leads path folder name)
    (keeps : KeepsRoutes disk after) : after.Leads path folder name := by
  obtain ⟨leading, links, segments, isFew, reaches⟩ := leads.reaches
  refine ⟨leads.isName, leads.nameFits, leads.hasNoNul, leads.pathFits,
    leading, links, segments, isFew, ?_⟩
  rw [keeps.here]
  exact reaches.mono keeps

theorem leads_name (isName : IsName path.text) (fits : path.text.utf8ByteSize ≤ nameLimit)
    (hasNoNul : path.text.toList.contains '\x00' = false)
    (isSingle : segmentsOf path.text = [path.text])
    (isRelative : Path.isAbsolute ⟨path.text⟩ = false) : disk.Leads path disk.here path.text := by
  refine ⟨isName, fits, hasNoNul, ?_, [], 0, isSingle, Nat.zero_le _, ?_⟩
  · have isLess : nameLimit < pathLimit := by decide
    omega
  · rw [origin, isRelative]
    exact .arrived disk.here

theorem segmentsOf_empty : segmentsOf "" = [""] := by decide

theorem Leads.isNonempty (leads : disk.Leads path folder name) : path.text ≠ "" := by
  obtain ⟨leading, _, segments, _⟩ := leads.reaches
  intro isEmpty
  rw [isEmpty, segmentsOf_empty] at segments
  have last := congrArg List.getLast? segments
  rw [List.getLast?_concat] at last
  exact leads.isName.1 (Option.some.inj last).symm

theorem Leads.route_eq (leads : disk.Leads path folder name) (purpose : Purpose) :
    ∃ room, disk.route purpose path = disk.settle purpose (room + 1) folder [name] := by
  obtain ⟨leading, links, segments, isFew, reaches⟩ := leads.reaches
  refine ⟨linkLimit - links, ?_⟩
  rw [route, leads.hasNoNul, if_neg (by decide), if_neg leads.isNonempty,
    if_neg (Nat.not_le.mpr leads.pathFits), segments,
    ← settle_of_reaches disk purpose _ leads.isName.1 reaches]
  congr 1
  omega

private theorem advance_name (isName : IsName name) :
    disk.advance folder [name] = .last folder name false := by
  rw [advance, if_neg (not_or.mpr ⟨isName.1, isName.2.1⟩), if_neg isName.2.2, List.all_nil,
    if_pos rfl, List.isEmpty_nil, Bool.not_true]

theorem eq_of_settle_edit {room : Nat} {reached : Location} {found : String} {closed : Bool}
    (isName : IsName name)
    (settled : disk.settle .edit (room + 1) folder [name] = .ok (.name reached found closed)) :
    reached = folder ∧ found = name := by
  rw [settle, advance_name isName] at settled
  simp only [reduceCtorEq, false_and, if_false, if_true] at settled
  split at settled
  · cases settled
  · split at settled
    · cases settled
      exact ⟨rfl, rfl⟩
    · cases settled
      exact ⟨rfl, rfl⟩

theorem Leads.route_of_no_link (leads : disk.Leads path folder name) (purpose : Purpose)
    (isNoLink : ∀ target, disk.entryAt? (folder ++ [name]) ≠ some (.link target)) :
    disk.route purpose path = .ok (.name folder name false) := by
  obtain ⟨room, routed⟩ := leads.route_eq purpose
  rw [routed, settle, advance_name leads.isName]
  -- The last case of the match is the one that is left: the entry is no link.
  simp only [Bool.false_eq_true, and_false, if_false, Nat.not_lt.mpr leads.nameFits]

theorem Leads.route_edit (leads : disk.Leads path folder name) :
    disk.route .edit path = .ok (.name folder name false) := by
  obtain ⟨room, routed⟩ := leads.route_eq .edit
  rw [routed, settle, advance_name leads.isName]
  simp only [Bool.false_eq_true, and_false, if_false, Nat.not_lt.mpr leads.nameFits, if_true]
  split <;> rfl

theorem leads_of_route {purpose : Purpose} {reached : Location} {found : String}
    (routed : disk.route purpose path = .ok (.name reached found false)) :
    ∃ folder name, disk.Leads path folder name := by
  obtain ⟨hasNoNul, _, fits, settled⟩ := route_eq_ok_iff.mp routed
  obtain ⟨leading, name, segments, isName⟩ := ends_of_settle disk purpose settled
  rw [segments] at settled
  obtain ⟨links, folder, left, reaches, count⟩ := reaches_of_settle disk purpose isName settled
  have nameFits : name.utf8ByteSize ≤ nameLimit := by
    rw [count, settle_of_reaches disk purpose _ isName.1 reaches, settle,
      advance_name isName] at settled
    apply Nat.le_of_not_lt
    intro isLong
    simp [isLong] at settled
  refine ⟨folder, name, isName, nameFits, hasNoNul, fits, leading, links, segments, ?_, reaches⟩
  omega

end Leads

end FixtureRunner.Disk
