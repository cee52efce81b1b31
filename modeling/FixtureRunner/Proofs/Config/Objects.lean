/-
Configuration files that are objects.

A file with the members of an object in any order and spelling is loaded as what it says.  A file
with a flaw in its object or with something behind it is refused.
-/

import FixtureRunner.Proofs.Config.Loading
import FixtureRunner.Proofs.Json.RoundTrip
import Mathlib.Data.List.Nodup
import Mathlib.Data.List.Perm.Subperm

namespace FixtureRunner.Config

open Json (Blank Field Fits Piece Reader Renders ascii blankBytes bracketed punctuated)
open Json.Reader (OtherNumber)

/-! ### Members -/

def Value.json : Value → Json
  | .null => .null
  | .text value => .string value
  | .texts values => .array (values.map .string)
  | .number value => .number value

/-- The values that a key can have.  Only the version must not be null. -/
inductive Admits : Key → Value → Prop where
  | version (text : String) : Admits .schemaVersion (.text text)
  | null {key : Key} : key ≠ .schemaVersion → Admits key .null
  | text {key : Key} (text : String) : key ∈ [.compiler, .diff] → Admits key (.text text)
  | texts {key : Key} (texts : List String) : key ∈ [.compilerArgs, .diffArgs, .normalize] →
      Admits key (.texts texts)
  | number {key : Key} {value : Nat} : key ∈ [.timeoutMs, .maxOutputBytes] →
      value ≤ Json.greatestNatural → Admits key (.number value)

structure Member where
  key : Key
  value : Value
  isAdmitted : Admits key value
  field : Field
  isKey : field.name = key.name
  isSpelled : Renders value.json field.value.spelling

def Member.entry (member : Member) : Key × Value :=
  (member.key, member.value)

/-- The start of an object: some members with different keys. -/
structure Opening where
  front : Blank
  inside : Blank
  members : List Member
  areDistinct : (members.map Member.key).Nodup

namespace Opening

/-- A file that starts so. -/
def file (opening : Opening) (behind : Bytes) : Bytes :=
  opening.front.bytes ++ ascii '\x7b' :: (opening.inside.bytes ++
    (punctuated true (opening.members.map (·.field.bytes)) ++ behind))

/-- A file in which a further member follows. -/
def fileBefore (opening : Opening) (next : Bytes) : Bytes :=
  opening.file ((if opening.members.isEmpty then [] else [ascii ',']) ++ next)

/-- A file in which the object ends. -/
def fileClosed (opening : Opening) (behind : Bytes) : Bytes :=
  opening.file (ascii '\x7d' :: behind)

/-- What the members tell, the last one first. -/
def gathered (opening : Opening) : Members :=
  (opening.members.map Member.entry).reverse

end Opening

/-- Files in which right members are followed by something wrong. -/
inductive Flawed : Bytes → Prop where
  | unknownKey (opening : Opening) {field : Field} (rest : Bytes) :
      field.name ∉ Key.all.map Key.name → Flawed (opening.fileBefore (field.front rest))
  | repeatedKey (opening : Opening) {field : Field} {member : Member} (rest : Bytes) :
      member ∈ opening.members → field.name = member.key.name →
      Flawed (opening.fileBefore (field.front rest))
  | otherNumber (opening : Opening) {field : Field} {key : Key} (blank : Blank) {bytes : Bytes} :
      key ∈ [.timeoutMs, .maxOutputBytes] → field.name = key.name → OtherNumber bytes →
      Flawed (opening.fileBefore (field.front (blank.bytes ++ bytes)))
  | noVersion (opening : Opening) (rest : Bytes) :
      Key.schemaVersion ∉ opening.members.map Member.key → Flawed (opening.fileClosed rest)
  | trailing (opening : Opening) {tail : Bytes} : (∃ byte ∈ tail, byte ∉ blankBytes) →
      Flawed (opening.fileClosed tail)

/-! ### Reading a member -/

section Values

variable {reader : Reader Value} {spelling : Bytes} {value : Value}

theorem takes_orNull_null : (orNull reader).Takes (Json.wordBytes ['n', 'u', 'l', 'l']) .null :=
  Reader.takes_null.map _

theorem takes_orNull (takes : reader.Takes spelling value)
    (isNoNull : spelling.head? ≠ some (ascii 'n')) : (orNull reader).Takes spelling value :=
  (takes.nullable isNoNull).map _

theorem takes_text {text : String} (renders : Renders (.string text) spelling) (expected : String) :
    (Reader.text expected).Takes spelling text.toList ∧ spelling.head? ≠ some (ascii 'n') := by
  cases renders with
  | string spells => exact ⟨Reader.takes_text spells expected, by simp [Json.inQuotes, ascii]⟩

theorem takes_readText {text : String} (renders : Renders (.string text) spelling)
    (expected : String) :
    (readText expected).Takes spelling (.text text) ∧ spelling.head? ≠ some (ascii 'n') := by
  obtain ⟨takes, isNoNull⟩ := takes_text renders expected
  have takesValue := takes.map fun text => Value.text (String.ofList text)
  rw [String.ofList_toList] at takesValue
  exact ⟨takesValue, isNoNull⟩

def textOf : Json → Text
  | .string text => text.toList
  | _ => []

theorem takes_readTexts {texts : List String} (renders : Renders (.array (texts.map .string)) spelling) :
    readTexts.Takes spelling (.texts texts) ∧ spelling.head? ≠ some (ascii 'n') := by
  generalize isArray : texts.map Json.string = items at renders
  cases renders with
  | array inside pieces areSpelled =>
      have takesText : ∀ item ∈ pieces,
          (Reader.text "a string").Takes item.2.spelling (textOf item.1) := by
        intro item isThere
        have isString : item.1 ∈ texts.map Json.string := isArray ▸ List.mem_map_of_mem isThere
        obtain ⟨text, _, isText⟩ := List.mem_map.mp isString
        have renders := areSpelled item isThere
        rw [← isText] at renders ⊢
        exact (takes_text renders _).1
      have areTexts : (pieces.map fun item => textOf item.1).map String.ofList = texts := by
        have areSame : (pieces.map fun item => textOf item.1) = (pieces.map Prod.fst).map textOf := by
          simp
        rw [areSame, ← isArray]
        simp [textOf, Function.comp_def]
      have takes := (Reader.takes_list pieces takesText inside).map fun texts =>
        Value.texts (texts.map String.ofList)
      rw [areTexts] at takes
      exact ⟨takes, by simp [bracketed, ascii]⟩

theorem takes_readNumber {number : Nat} (fits : number ≤ Json.greatestNatural)
    (renders : Renders (.number number) spelling) (expected : String) :
    (readNumber expected).Takes spelling (.number number) ∧ spelling.head? ≠ some (ascii 'n') := by
  cases renders with
  | number =>
      obtain ⟨byte, rest, areBytes, _, _, isNoWord⟩ := Reader.starts_digitBytes number
      refine ⟨(Reader.takes_natural fits expected).map _, ?_⟩
      rw [areBytes]
      exact fun same => isNoWord 'n' (by decide) (Option.some.inj same)

end Values

variable {key : Key} {bytes : Bytes}

theorem takes_readValue {value : Value} (isAdmitted : Admits key value) {spelling : Bytes}
    (renders : Renders value.json spelling) : (readValue key).Takes spelling value := by
  cases isAdmitted with
  | version text => exact (takes_readText renders _).1
  | null isOther =>
      cases renders
      cases key with
      | schemaVersion => exact absurd rfl isOther
      | _ => exact takes_orNull_null
  | text text isKey =>
      simp only [List.mem_cons, List.not_mem_nil, or_false] at isKey
      obtain ⟨takes, isNoNull⟩ := takes_readText renders "path string"
      rcases isKey with rfl | rfl
      · exact takes_orNull takes isNoNull
      · exact takes_orNull takes isNoNull
  | texts texts isKey =>
      simp only [List.mem_cons, List.not_mem_nil, or_false] at isKey
      obtain ⟨takes, isNoNull⟩ := takes_readTexts renders
      rcases isKey with rfl | rfl | rfl
      · exact takes_orNull takes isNoNull
      · exact takes_orNull takes isNoNull
      · exact takes_orNull takes isNoNull
  | number isKey fits =>
      simp only [List.mem_cons, List.not_mem_nil, or_false] at isKey
      have takes := takes_readNumber fits renders
      rcases isKey with rfl | rfl
      · exact takes_orNull (takes "u64").1 (takes "u64").2
      · exact takes_orNull (takes "usize").1 (takes "usize").2

theorem Key.ofName?_name (key : Key) : Key.ofName? key.name.toList = some key := by
  cases key <;> decide

theorem Members.has_iff {members : Members} :
    members.has key = true ↔ key ∈ members.map Prod.fst := by
  simp [Members.has]

/-- One turn of the loop: the key is known and new, and the value is taken. -/
theorem leads_member (member : Member) {start : Members} (isNew : start.has member.key = false)
    (room : Nat) (blank : Blank) {tail : Bytes} (ends : Reader.Ends tail) :
    (readMembers (room + 1) start).Leads
      (blank.bytes ++ ((if start.isEmpty then [] else [ascii ',']) ++ (member.field.bytes ++ tail)))
      (readMembers room (member.entry :: start)) (member.field.value.after.bytes ++ tail) := by
  rw [Field.bytes_append]
  refine (Reader.reads_nextKey member.field start.isEmpty blank _).bind ?_
  rw [member.isKey]
  simp only [Key.ofName?_name, isNew]
  refine (Reader.reads_colon member.field.between _).bind ?_
  exact ((takes_readValue member.isAdmitted member.isSpelled).piece ends).leads

/-- Right members are gathered, by induction on those that are left.  The room is what the
remaining keys need. -/
theorem leads_members (members : List Member) {start : Members}
    (areDistinct : (members.map Member.key ++ start.map Prod.fst).Nodup) {room : Nat}
    (isRoom : members.length ≤ room) (blank : Blank) {tail : Bytes}
    (ends : members ≠ [] → Reader.Ends tail) :
    ∃ left : Blank, (readMembers room start).Leads
      (blank.bytes ++ (punctuated start.isEmpty (members.map (·.field.bytes)) ++ tail))
      (readMembers (room - members.length) ((members.map Member.entry).reverse ++ start))
      (left.bytes ++ tail) := by
  induction members generalizing room start blank with
  | nil => exact ⟨blank, Reader.Leads.refl _ _⟩
  | cons member others ih =>
      have endsTail := ends (List.cons_ne_nil _ _)
      obtain ⟨less, rfl⟩ : ∃ less, room = less + 1 := ⟨room - 1, by
        rw [List.length_cons] at isRoom
        omega⟩
      rw [List.map_cons, List.cons_append] at areDistinct
      have areStill : (others.map Member.key ++ (member.entry :: start).map Prod.fst).Nodup :=
        List.nodup_middle.mpr areDistinct
      have isNew : start.has member.key = false := by
        rw [← Bool.not_eq_true, Members.has_iff]
        exact fun isThere => (List.nodup_cons.mp areDistinct).1 (List.mem_append_right _ isThere)
      obtain ⟨left, leads⟩ := ih areStill (Nat.le_of_succ_le_succ isRoom) member.field.value.after
        fun _ => endsTail
      refine ⟨left, ?_⟩
      rw [List.map_cons, punctuated, List.append_assoc, List.append_assoc]
      refine (leads_member member isNew less blank (Reader.ends_punctuated _ endsTail)).trans ?_
      simpa using leads

/-! ### Whole files -/

namespace Opening

variable (opening : Opening)

theorem gathered_isEmpty : opening.gathered.isEmpty = opening.members.isEmpty := by
  simp [gathered]

theorem gathered_has (key : Key) :
    opening.gathered.has key = true ↔ key ∈ opening.members.map Member.key := by
  rw [Members.has_iff, gathered, List.map_reverse, List.mem_reverse, List.map_map]
  rfl

theorem leads {behind : Bytes} (ends : opening.members ≠ [] → Reader.Ends behind) :
    ∃ (room : Nat) (left : Blank), (readMembers (Key.all.length + 1) []).Leads
      (opening.inside.bytes ++ (punctuated true (opening.members.map (·.field.bytes)) ++ behind))
      (readMembers (room + 1) opening.gathered) (left.bytes ++ behind) := by
  -- The keys differ, so there are no more members than keys.
  have isShort : opening.members.length ≤ Key.all.length := by
    have areKeys : opening.members.map Member.key ⊆ Key.all := by
      intro key _
      cases key <;> decide
    have isShort := (opening.areDistinct.subperm areKeys).length_le
    rwa [List.length_map] at isShort
  have areDistinct : (opening.members.map Member.key ++ ([] : Members).map Prod.fst).Nodup := by
    rw [List.map_nil, List.append_nil]
    exact opening.areDistinct
  have isRoom : opening.members.length ≤ Key.all.length + 1 := by omega
  obtain ⟨left, leads⟩ := leads_members opening.members areDistinct isRoom opening.inside ends
  refine ⟨Key.all.length - opening.members.length, left, ?_⟩
  rw [Nat.sub_add_comm isShort, List.append_nil] at leads
  exact leads

theorem read_error {behind : Bytes} (ends : opening.members ≠ [] → Reader.Ends behind)
    (faults : ∀ room (left : Blank),
      (readMembers (room + 1) opening.gathered).Faults (left.bytes ++ behind)) :
    ∃ fault, Document.read (opening.file behind) = .error fault := by
  obtain ⟨room, left, leads⟩ := opening.leads ends
  have faultsDocument : readDocument.Faults (opening.file behind) := by
    refine (Reader.reads_token opening.front (by decide) _).bind_faults ?_
    refine Reader.Faults.bind (Reader.Faults.placed ((Reader.reads_drop _ _).bind_faults ?_))
    exact (leads.faults (faults room left)).closing
  exact faultsDocument.read_eq

theorem read_next_error {next : Bytes}
    (faults : ∀ room (left : Blank), (readMembers (room + 1) opening.gathered).Faults
      (left.bytes ++ ((if opening.gathered.isEmpty then [] else [ascii ',']) ++ next))) :
    ∃ fault, Document.read (opening.fileBefore next) = .error fault := by
  rw [gathered_isEmpty] at faults
  refine opening.read_error (fun isSome => ?_) faults
  rw [List.isEmpty_eq_false_iff.mpr isSome]
  exact Reader.ends_cons (by decide) _

theorem read_unversioned (isMissing : opening.gathered.has .schemaVersion = false) (rest : Bytes) :
    ∃ fault, Document.read (opening.fileClosed rest) = .error fault := by
  refine opening.read_error (fun _ => (Reader.ends_close rest).2) fun room left => ?_
  refine (Reader.reads_nextKey_none _ left rest).bind_faults ?_
  simp only [isMissing]
  exact Reader.faults_failUnplaced _ _

theorem reads_object (hasVersion : opening.gathered.has .schemaVersion = true) (behind : Bytes) :
    (Reader.placed (do
      Reader.drop
      Reader.closing (readMembers (Key.all.length + 1) []) Reader.closeObject)).Reads
      (ascii '\x7b' :: (opening.inside.bytes ++
        (punctuated true (opening.members.map (·.field.bytes)) ++ ascii '\x7d' :: behind)))
      opening.gathered behind := by
  obtain ⟨room, left, leads⟩ := opening.leads fun _ => (Reader.ends_close behind).2
  have readsMembers : (readMembers (room + 1) opening.gathered).Reads
      (left.bytes ++ ascii '\x7d' :: behind) opening.gathered (ascii '\x7d' :: behind) := by
    refine (Reader.reads_nextKey_none _ left behind).bind ?_
    simp only [hasVersion]
    exact Reader.reads_pure _ _
  exact Reader.Reads.placed ((Reader.reads_drop _ _).bind
    (Reader.Reads.closing (leads.trans readsMembers) (Reader.reads_closeObject behind)))

theorem read_closed (hasVersion : opening.gathered.has .schemaVersion = true) (behind : Blank) :
    Document.read (opening.fileClosed behind.bytes) = .ok (Document.ofMembers opening.gathered) := by
  have reads : readDocument.Reads (opening.fileClosed behind.bytes)
      (Document.ofMembers opening.gathered) [] :=
    (Reader.reads_token opening.front (by decide) _).bind
      ((opening.reads_object hasVersion behind.bytes).bind
        ((Reader.reads_finish behind).bind (Reader.reads_pure _ [])))
  exact reads.read_eq

end Opening

theorem faults_orNull {reader : Reader Value} (blank : Blank) (isOther : OtherNumber bytes)
    (faults : reader.Faults bytes) : (orNull reader).Faults (blank.bytes ++ bytes) := by
  obtain ⟨byte, rest, rfl, isToken, isNoNull, _⟩ := isOther.head
  exact (faults.nullable isToken isNoNull).bind

theorem faults_readNumber (expected : String) (isOther : OtherNumber bytes) :
    (readNumber expected).Faults bytes :=
  (Reader.faults_natural expected Blank.none isOther).bind

theorem Flawed.read_error (isFlawed : Flawed bytes) :
    ∃ fault, Document.read bytes = .error fault := by
  cases isFlawed with
  | @unknownKey opening field rest isUnknown =>
      refine opening.read_next_error fun room left => ?_
      have isNone : Key.ofName? field.name.toList = none := by
        rw [Key.ofName?, List.find?_eq_none]
        intro key isKey isName
        have isSame := String.toList_inj.mp (of_decide_eq_true isName)
        exact isUnknown (List.mem_map.mpr ⟨key, isKey, isSame⟩)
      refine (Reader.reads_nextKey field _ left rest).bind_faults ?_
      simp only [isNone]
      exact Reader.faults_failUnplaced _ _
  | @repeatedKey opening field member rest isThere isName =>
      refine opening.read_next_error fun room left => ?_
      have isRepeated : opening.gathered.has member.key = true :=
        (opening.gathered_has _).mpr (List.mem_map_of_mem isThere)
      refine (Reader.reads_nextKey field _ left rest).bind_faults ?_
      simp only [isName, Key.ofName?_name, isRepeated]
      exact Reader.faults_failUnplaced _ _
  | @otherNumber opening field key blank bytes isKey isName isOther =>
      refine opening.read_next_error fun room left => ?_
      refine (Reader.reads_nextKey field _ left _).bind_faults ?_
      simp only [isName, Key.ofName?_name]
      -- A repeated key is refused before its number is looked at.
      split
      · exact Reader.faults_failUnplaced _ _
      · refine (Reader.reads_colon field.between _).bind_faults (Reader.Faults.bind ?_)
        simp only [List.mem_cons, List.not_mem_nil, or_false] at isKey
        rcases isKey with rfl | rfl
        · exact faults_orNull blank isOther (faults_readNumber "u64" isOther)
        · exact faults_orNull blank isOther (faults_readNumber "usize" isOther)
  | @noVersion opening rest isMissing =>
      rw [← opening.gathered_has, Bool.not_eq_true] at isMissing
      exact opening.read_unversioned isMissing rest
  | @trailing opening tail isOther =>
      cases hasVersion : opening.gathered.has .schemaVersion with
      | false => exact opening.read_unversioned hasVersion tail
      | true =>
          have faults : readDocument.Faults (opening.fileClosed tail) := by
            refine (Reader.reads_token opening.front (by decide) _).bind_faults ?_
            refine (opening.reads_object hasVersion tail).bind_faults ?_
            exact (Reader.faults_finish isOther).bind
          exact faults.read_eq

/-! ### What a file says -/

/-- What a document says under a key. -/
def Document.get? (document : Document) : Key → Option Value
  | .schemaVersion => some (.text document.schemaVersion)
  | .compiler => document.compiler.map .text
  | .compilerArgs => document.compilerArgs.map .texts
  | .diff => document.diff.map .text
  | .diffArgs => document.diffArgs.map .texts
  | .normalize => document.normalize.map .texts
  | .timeoutMs => document.timeoutMs.map .number
  | .maxOutputBytes => document.maxOutputBytes.map .number

/-- A null says nothing, and every other value of the right kind says itself. -/
theorem get?_ofMembers {members : Members}
    (areAdmitted : ∀ value, members.lookup key = some value → Admits key value)
    (hasVersion : members.lookup .schemaVersion ≠ none) :
    (Document.ofMembers members).get? key = (members.lookup key).filter (· ≠ .null) := by
  cases isValue : members.lookup key with
  | none =>
      cases key with
      | schemaVersion => exact absurd isValue hasVersion
      | _ => simp [Document.get?, Document.ofMembers, Members.value, isValue, Value.text?,
          Value.texts?, Value.number?]
  | some value =>
      cases key <;> cases areAdmitted value isValue <;>
        simp_all [Document.get?, Document.ofMembers, Members.value, Value.text?, Value.texts?,
          Value.number?, Option.filter]

theorem lookup_eq_some_iff {κ α : Type} [BEq κ] [LawfulBEq κ] {members : List (κ × α)}
    (areDistinct : (members.map Prod.fst).Nodup) {key : κ} {value : α} :
    members.lookup key = some value ↔ (key, value) ∈ members := by
  rw [List.lookup_eq_some_iff]
  constructor
  · rintro ⟨before, after, rfl, _⟩
    simp
  · intro isThere
    obtain ⟨before, after, rfl⟩ := List.append_of_mem isThere
    rw [List.map_append, List.map_cons, List.nodup_middle, List.nodup_cons] at areDistinct
    refine ⟨before, after, rfl, fun other isOther => ?_⟩
    rw [bne_iff_ne]
    rintro rfl
    exact areDistinct.1 (List.mem_append_left _ (List.mem_map.mpr ⟨other, isOther, rfl⟩))

namespace Opening

variable (opening : Opening)

theorem lookup_gathered {key : Key} {value : Value} :
    opening.gathered.lookup key = some value ↔
      ∃ member ∈ opening.members, member.key = key ∧ member.value = value := by
  have areDistinct : (opening.gathered.map Prod.fst).Nodup := by
    rw [gathered, List.map_reverse, List.nodup_reverse, List.map_map]
    exact opening.areDistinct
  rw [lookup_eq_some_iff areDistinct]
  simp [gathered, Member.entry]

theorem get?_gathered (hasVersion : opening.gathered.has .schemaVersion = true) (key : Key)
    (value : Value) :
    (Document.ofMembers opening.gathered).get? key = some value ↔
      value ≠ .null ∧ ∃ member ∈ opening.members, member.key = key ∧ member.value = value := by
  have areAdmitted : ∀ value, opening.gathered.lookup key = some value → Admits key value := by
    intro value isValue
    obtain ⟨member, _, rfl, rfl⟩ := opening.lookup_gathered.mp isValue
    exact member.isAdmitted
  have isThere : opening.gathered.lookup .schemaVersion ≠ none := by
    simpa [Members.has] using hasVersion
  rw [get?_ofMembers areAdmitted isThere, Option.filter_eq_some_iff, opening.lookup_gathered,
    decide_eq_true_eq]
  exact And.comm

end Opening

/-- A file with the members of an object in any order, blanks between all tokens, and any spelling
of its strings is loaded as what the members say, null counting as absent.  A file in which right
members are followed by a member with an unknown or a repeated key or with another number than a
natural one of 64 bits, by the end of an object without a version, or by something behind the object
is refused. -/
theorem loadDocument_object (path : Path) (workspace : Workspace) :
    (∀ (opening : Opening) (version : Member) (text : String) (behind : Blank),
      version ∈ opening.members → version.key = .schemaVersion → version.value = .text text →
      Text.trim text.toList = currentVersion.toList →
      workspace.disk.read path = .ok (opening.fileClosed behind.bytes) →
      ∃ document, (loadDocument path).run workspace = (.ok document, workspace) ∧
        ∀ key value, document.get? key = some value ↔
          value ≠ .null ∧ ∃ member ∈ opening.members, member.key = key ∧ member.value = value) ∧
    (∀ bytes, Flawed bytes → workspace.disk.read path = .ok bytes →
      ∃ problem, (loadDocument path).run workspace = (.error (.config path problem), workspace)) := by
  constructor
  · intro opening version text behind isThere isKey isText isCurrent isContent
    have hasVersion : opening.gathered.has .schemaVersion = true :=
      (opening.gathered_has _).mpr (isKey ▸ List.mem_map_of_mem isThere)
    have tells := opening.get?_gathered hasVersion
    have isVersion := (tells .schemaVersion (.text text)).mpr
      ⟨by simp, version, isThere, isKey, isText⟩
    have isSame : (Document.ofMembers opening.gathered).schemaVersion = text := by
      simpa [Document.get?] using isVersion
    refine ⟨_, run_loadDocument_ok isContent (opening.read_closed hasVersion behind) ?_, tells⟩
    rw [Document.isCurrent, isSame]
    exact decide_eq_true isCurrent
  · intro bytes isFlawed isContent
    obtain ⟨fault, isRead⟩ := isFlawed.read_error
    exact ⟨_, run_loadDocument_error isContent isRead⟩

def writtenMember (key : Key) (value : Value) (isAdmitted : Admits key value) : Member :=
  { key, value, isAdmitted
    field := Json.field (key.name, value.json)
    isKey := rfl
    isSpelled := Json.renders_render _ }

def unordered : Opening :=
  { front := Blank.none
    inside := Blank.none
    members := [writtenMember .timeoutMs (.number 5) (.number (by decide) (by decide)),
      writtenMember .diff .null (.null (by decide)),
      writtenMember .schemaVersion (.text " tstrun.config@0.1.0\n") (.version _)]
    areDistinct := by decide }

def configDisk (content : Bytes) : Disk :=
  (Disk.empty ["work"]).put ["work", "tstrun.json"] (.file content false)

/-- The order of members does not count, and a null is accepted, but not a second one under the
same key. -/
theorem loadDocument_object_null :
    (∃ document, (loadDocument ⟨"tstrun.json"⟩).run { disk := configDisk (unordered.fileClosed []) } =
      (.ok document, { disk := configDisk (unordered.fileClosed []) }) ∧
      document.get? .timeoutMs = some (.number 5)) ∧
    ∃ problem, (loadDocument ⟨"tstrun.json"⟩).run
        { disk := configDisk (unordered.fileBefore ((Json.field ("diff", .null)).front [])) } =
      (.error (.config ⟨"tstrun.json"⟩ problem),
        { disk := configDisk (unordered.fileBefore ((Json.field ("diff", .null)).front [])) }) := by
  constructor
  · obtain ⟨document, isLoaded, tells⟩ := (loadDocument_object ⟨"tstrun.json"⟩
      { disk := configDisk (unordered.fileClosed []) }).1 unordered _ _ Blank.none
      (List.mem_cons_of_mem _ (List.mem_cons_of_mem _ List.mem_cons_self)) rfl rfl (by decide) rfl
    exact ⟨document, isLoaded, (tells _ _).mpr ⟨by simp, _, List.mem_cons_self, rfl, rfl⟩⟩
  · refine (loadDocument_object ⟨"tstrun.json"⟩ _).2 _ ?_ rfl
    exact .repeatedKey unordered [] (List.mem_cons_of_mem _ List.mem_cons_self) rfl

end FixtureRunner.Config
