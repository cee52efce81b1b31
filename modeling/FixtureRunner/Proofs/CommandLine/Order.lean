/-
The order of a command line.

Arguments say items: flags, settings with their values, and fragments.  What a command line gives
depends on which items it says and on the order of the fragments, and what stands behind the
separator is added to the fragments.
-/

import FixtureRunner.Proofs.CommandLine.Precedence
import FixtureRunner.Proofs.Config.Objects

namespace FixtureRunner.CommandLine

/-! ### What arguments say -/

inductive Item where
  | flag (flag : Flag)
  | setting (setting : Setting) (value : String)
  | fragment (text : String)
deriving DecidableEq

/-- What one argument says: items, or an option whose value is the next argument. -/
inductive Token where
  | items (items : List Item)
  | opening (setting : Setting)
deriving DecidableEq

def Token.ofWord? (name : Text) (value : Option Text) : Option Token :=
  match Flag.all.find? (·.name.toList = name) with
  | some flag => if value = none then some (.items [.flag flag]) else none
  | none =>
      (Setting.all.find? (·.name.toList = name)).map fun setting =>
        value.elim (.opening setting) fun text => .items [.setting setting (String.ofList text)]

/-- An argument that starts with no dash or is nothing but a dash is a fragment, or a value. -/
def IsPlain (argument : String) : Prop :=
  argument = "-" ∨ argument.toList.head? ≠ some '-'

instance : DecidablePred IsPlain := fun _ => inferInstanceAs (Decidable (_ ∨ _))

def Token.ofArgument? (argument : String) : Option Token :=
  if IsPlain argument then
    some (.items [.fragment argument])
  else
    match argument.toList.tail with
    | '-' :: rest =>
        match rest.span (· ≠ '=') with
        | (name, []) => ofWord? name none
        | (name, _ :: value) => ofWord? name (some value)
    | rest =>
        (rest.mapM fun letter => Flag.all.find? (·.letter = letter)).map fun flags =>
          .items (flags.map .flag)

/-- The items that arguments before the separator say, if they say any. -/
def itemsOf? : List String → Option (List Item)
  | [] => some []
  | argument :: rest =>
      match Token.ofArgument? argument, rest with
      | some (.items items), rest => (itemsOf? rest).map (items ++ ·)
      | some (.opening setting), value :: rest =>
          if IsPlain value then (itemsOf? rest).map (.setting setting value :: ·) else none
      | _, _ => none

/-- The separator with what stands behind it, if there is one. -/
def closing (tail : Option (List String)) : List String :=
  tail.elim [] ("--" :: ·)

/-! ### What items give -/

namespace Item

def mode? : Item → Option ModeFlag
  | .flag (.mode mode) => some mode
  | _ => none

def setting? : Item → Option (Setting × String)
  | .setting name value => some (name, value)
  | _ => none

def fragment? : Item → Option String
  | .fragment text => some text
  | _ => none

end Item

/-- Items that can all be taken in: no request for information, no mode and no setting twice, and
no bad value. -/
@[mk_iff] structure Admissible (items : List Item) : Prop where
  isNoHelp : .flag .help ∉ items
  isNoVersion : .flag .version ∉ items
  areModesOnce : (items.filterMap Item.mode?).Nodup
  areSettingsOnce : ((items.filterMap Item.setting?).map Prod.fst).Nodup
  areChecked : ∀ setting value, (setting, value) ∈ items.filterMap Item.setting? →
    checkValue setting value = .ok ()

theorem Admissible.left {items more : List Item} (isAdmissible : Admissible (items ++ more)) :
    Admissible items := by
  simp only [admissible_iff, List.filterMap_append, List.map_append, List.mem_append, not_or] at *
  obtain ⟨isNoHelp, isNoVersion, areModes, areSettings, areChecked⟩ := isAdmissible
  exact ⟨isNoHelp.1, isNoVersion.1, areModes.of_append_left, areSettings.of_append_left,
    fun setting value isThere => areChecked setting value (Or.inl isThere)⟩

namespace Reading

variable {reading settled next : Reading}

def takeIn (reading : Reading) : Item → Except Refusal Reading
  | .flag flag => reading.flag flag
  | .setting setting value => reading.accept setting value
  | .fragment text => .ok { reading with fragments := reading.fragments ++ [text] }

/-- What has been read of items that were all taken in. -/
def ofItems (items : List Item) : Reading :=
  { modes := items.filterMap Item.mode?
    settings := (items.filterMap Item.setting?).reverse
    verbose := min 255 (items.count (.flag .verbose))
    fragments := items.filterMap Item.fragment? }

theorem accept_eq_ok {setting : Setting} {value : String} :
    reading.accept setting value = .ok next ↔
      setting ∉ reading.settings.map Prod.fst ∧ checkValue setting value = .ok () ∧
        next = { reading with settings := (setting, value) :: reading.settings } := by
  have isGiven : reading.settings.any (·.1 = setting) = true ↔
      setting ∈ reading.settings.map Prod.fst := by
    simp [List.mem_map]
  rw [accept]
  by_cases isRepeated : setting ∈ reading.settings.map Prod.fst
  · rw [if_pos (isGiven.mpr isRepeated)]
    simp [isRepeated]
  · rw [if_neg (isGiven.not.mpr isRepeated)]
    cases checkValue setting value with
    | error refusal => simp [bind, Except.bind]
    | ok => simpa [bind, Except.bind, pure, Except.pure, eq_comm] using fun _ => isRepeated

theorem resolve_none (isFree : reading.pending = none) : reading.resolve = .ok reading := by
  rw [resolve, isFree]

theorem nodup_concat_iff {α : Type} {held : List α} {value : α} :
    (held ++ [value]).Nodup ↔ held.Nodup ∧ value ∉ held := by
  rw [List.nodup_append_comm, List.singleton_append, List.nodup_cons, and_comm]

variable {items : List Item}

theorem takeIn_ofItems (isAdmissible : Admissible items) (item : Item) :
    (ofItems items).takeIn item = .ok next ↔
      Admissible (items ++ [item]) ∧ next = ofItems (items ++ [item]) := by
  obtain ⟨isNoHelp, isNoVersion, areModes, areSettings, areChecked⟩ := isAdmissible
  simp only [admissible_iff, ofItems, List.filterMap_append, List.map_append, List.count_append,
    List.mem_append, List.reverse_append, List.filterMap_cons, List.filterMap_nil]
  -- Otherwise the simplifier would look for the modes and the settings among the items.
  generalize items.filterMap Item.mode? = modes at *
  generalize items.filterMap Item.setting? = settings at *
  cases item with
  | flag flag =>
      rw [takeIn, Reading.flag, resolve_none rfl]
      cases flag with
      | help => simp [bind, Except.bind, throw, throwThe, MonadExceptOf.throw]
      | version => simp [bind, Except.bind, throw, throwThe, MonadExceptOf.throw]
      | verbose =>
          have isCounted (count : Nat) : min 255 (min 255 count + 1) = min 255 (count + 1) := by
            omega
          simp +contextual [bind, Except.bind, pure, Except.pure, Item.mode?, Item.setting?,
            Item.fragment?, *, eq_comm (a := next)]
      | mode mode =>
          by_cases isRepeated : mode ∈ modes
          · simp [bind, Except.bind, throw, throwThe, MonadExceptOf.throw, Item.mode?, isRepeated,
              nodup_concat_iff]
          · simp +contextual [bind, Except.bind, pure, Except.pure, Item.mode?, Item.setting?,
              Item.fragment?, *, eq_comm (a := next), nodup_concat_iff]
  | setting setting value =>
      rw [takeIn, accept_eq_ok]
      simp only [Item.mode?, Item.setting?, Item.fragment?, List.map_singleton, nodup_concat_iff]
      simp +contextual [or_imp, and_assoc, *]
  | fragment text =>
      simp +contextual [takeIn, Item.mode?, Item.setting?, Item.fragment?, *, eq_comm (a := next)]

/-- Items are taken in exactly if they can be, and what has been read then is known. -/
theorem foldlM_takeIn {more : List Item} (isAdmissible : Admissible items) :
    more.foldlM takeIn (ofItems items) = .ok next ↔
      Admissible (items ++ more) ∧ next = ofItems (items ++ more) := by
  induction more generalizing items with
  | nil => simp [isAdmissible, pure, Except.pure, eq_comm]
  | cons item rest ih =>
      rw [List.foldlM_cons, bind_eq_ok, List.append_cons]
      constructor
      · rintro ⟨between, isTaken, isRest⟩
        obtain ⟨isAdmissible, rfl⟩ := (takeIn_ofItems isAdmissible item).mp isTaken
        exact (ih isAdmissible).mp isRest
      · rintro ⟨isAll, isNext⟩
        exact ⟨_, (takeIn_ofItems isAdmissible item).mpr ⟨isAll.left, rfl⟩,
          (ih isAll.left).mpr ⟨isAll, isNext⟩⟩

/-! ### Reading an argument -/

theorem resolve_eq_ok (isSettled : reading.resolve = .ok settled) :
    settled.pending = none ∧ settled.onlyFragments = reading.onlyFragments := by
  rw [resolve] at isSettled
  split at isSettled
  · rename_i isFree
    rw [← Except.ok.inj isSettled]
    exact ⟨isFree, rfl⟩
  · cases isSettled
  · rw [(accept_eq_ok.mp isSettled).2.2]
    exact ⟨rfl, rfl⟩

/-- An option waits for its value, or its value has to be taken in. -/
def holding (reading : Reading) (setting : Setting) (value : Option String) : Reading :=
  { reading with pending := some (setting, value) }

/-- Takes in what an argument says, behind the value before it. -/
def act (reading : Reading) (token : Token) : Except Refusal Reading :=
  reading.resolve >>= fun settled =>
    match token with
    | .items items => items.foldlM takeIn settled
    | .opening setting => .ok (settled.holding setting none)

theorem foldlM_flag (first : Flag) (others : List Flag) :
    (first :: others).foldlM flag reading = reading.act (.items ((first :: others).map .flag)) := by
  cases isSettled : reading.resolve with
  | error refusal => simp only [act, List.foldlM_cons, Reading.flag, isSettled]; rfl
  | ok settled =>
      have isSame : reading.flag first = settled.flag first := by
        rw [Reading.flag, Reading.flag, isSettled, resolve_none (resolve_eq_ok isSettled).1]
      rw [act, isSettled, List.foldlM_cons, isSame]
      change _ = ((first :: others).map .flag).foldlM takeIn settled
      rw [List.foldlM_map]
      rfl

theorem letters_eq_ok {text : Text} : letters text reading = .ok next ↔
    ∃ flags, text.mapM (fun letter => Flag.all.find? (·.letter = letter)) = some flags ∧
      flags.foldlM flag reading = .ok next := by
  induction text generalizing reading with
  | nil => simp [letters, pure, Except.pure]
  | cons letter rest ih =>
      rw [letters, List.mapM_cons]
      cases Flag.all.find? (·.letter = letter) with
      | none => simp
      | some flag =>
          simp only [bind_eq_ok, ih]
          cases rest.mapM fun letter => Flag.all.find? (·.letter = letter) with
          | none => simp
          | some flags => simp [List.foldlM_cons, bind_eq_ok]

theorem word_eq_ok {name : Text} {value : Option Text} : reading.word name value = .ok next ↔
    ∃ token, Token.ofWord? name value = some token ∧ reading.act token = .ok next := by
  have isFlag (flag : Flag) : reading.flag flag = reading.act (.items [.flag flag]) :=
    (bind_pure _).symm.trans (foldlM_flag flag [])
  rw [word, Token.ofWord?]
  cases Flag.all.find? (·.name.toList = name) with
  | some flag => cases value <;> simp [isFlag]
  | none =>
      cases Setting.all.find? (·.name.toList = name) with
      | none => simp
      | some setting =>
          cases value with
          | none => simp [act]; rfl
          | some text => simp [act, takeIn]

section Step

variable {argument : String} (isOpen : reading.onlyFragments = false)

include isOpen

theorem step_plain (isPlain : IsPlain argument) :
    reading.step argument = reading.plain argument := by
  rw [step, isOpen]
  rcases isPlain with rfl | isDashless
  · rfl
  · simp only [Bool.false_eq_true, if_false]
    split <;> simp_all

/-- An argument before the separator is read by what it says, unless it is a value that is waited
for. -/
theorem step_eq_ok (isOther : argument ≠ "--")
    (isNoValue : IsPlain argument → ∀ setting, reading.pending ≠ some (setting, none)) :
    reading.step argument = .ok next ↔
      ∃ token, Token.ofArgument? argument = some token ∧ reading.act token = .ok next := by
  by_cases isPlain : IsPlain argument
  · rw [step_plain isOpen isPlain, Token.ofArgument?, if_pos isPlain, plain]
    split
    · rename_i setting waits _
      exact absurd waits (isNoValue isPlain setting)
    · simp [act, takeIn]
      rfl
  · have isDashed : argument ≠ "-" ∧ argument.toList.head? = some '-' := by
      simpa [IsPlain] using isPlain
    rw [step, isOpen, Token.ofArgument?, if_neg isPlain]
    simp only [Bool.false_eq_true, if_false]
    split
    · rename_i isText
      exact absurd (String.toList_inj.mp isText) isOther
    · rename_i rest _ isText
      rw [isText, List.tail_cons]
      simp only
      rcases rest.span (· ≠ '=') with ⟨name, _ | ⟨_, value⟩⟩ <;> exact word_eq_ok
    · rename_i isText
      exact absurd (String.toList_inj.mp isText) isDashed.1
    · rename_i rest _ isWord isLong isText
      rw [isText, List.tail_cons, letters_eq_ok]
      split
      · exact absurd rfl (isWord _)
      · cases areFlags : rest.mapM fun letter => Flag.all.find? (·.letter = letter) with
        | none => simp
        | some flags =>
            cases flags with
            | nil => cases rest <;> simp_all [List.mapM_cons, Option.bind_eq_some_iff]
            | cons first others =>
                simp only [Option.map_some, Option.some.injEq, exists_eq_left']
                rw [foldlM_flag]
    · rename_i isDashless
      obtain ⟨rest, isText⟩ := List.head?_eq_some_iff.mp isDashed.2
      exact absurd isText (isDashless rest)

theorem foldlM_cons_eq_ok {rest : List String} (isOther : argument ≠ "--")
    (isNoValue : IsPlain argument → ∀ setting, reading.pending ≠ some (setting, none)) :
    (argument :: rest).foldlM step reading >>= resolve = .ok next ↔
      ∃ token, Token.ofArgument? argument = some token ∧
        ∃ between, reading.act token = .ok between ∧
          rest.foldlM step between >>= resolve = .ok next := by
  rw [List.foldlM_cons, bind_assoc, bind_eq_ok]
  simp only [step_eq_ok isOpen isOther isNoValue]
  grind

end Step

/-! ### Behind the separator -/

def close (tail : Option (List String)) (reading : Reading) : Reading :=
  { reading with
    fragments := reading.fragments ++ tail.getD []
    onlyFragments := tail.isSome }

theorem foldlM_fragments {fragments : List String} (isClosed : reading.onlyFragments = true) :
    fragments.foldlM step reading >>= resolve = .ok next ↔ ∃ settled, reading.resolve = .ok settled ∧
      next = { settled with fragments := settled.fragments ++ fragments } := by
  induction fragments generalizing reading with
  | nil => simp [eq_comm]
  | cons fragment rest ih =>
      have isStep : reading.step fragment = reading.resolve >>= fun settled =>
          pure { settled with fragments := settled.fragments ++ [fragment] } := by
        rw [step, isClosed, if_pos rfl, plain, isClosed]
        split
        · contradiction
        · rfl
      rw [List.foldlM_cons, isStep, bind_assoc, bind_assoc, bind_eq_ok]
      refine exists_congr fun settled => and_congr_right fun isSettled => ?_
      let longer : Reading := { settled with fragments := settled.fragments ++ [fragment] }
      obtain ⟨isFree, isStillClosed⟩ := resolve_eq_ok isSettled
      rw [pure_bind, @ih longer (isStillClosed.trans isClosed), @resolve_none longer isFree]
      simp [longer]

theorem resolve_closed : { reading with onlyFragments := true }.resolve =
    reading.resolve.map fun settled => { settled with onlyFragments := true } := by
  rcases reading with ⟨_, _, _, _, _ | ⟨setting, _ | value⟩, _⟩
  · rfl
  · rfl
  · simp only [resolve, accept]
    split
    · rfl
    · cases checkValue setting value <;> rfl

theorem foldlM_closing {tail : Option (List String)} (isOpen : reading.onlyFragments = false) :
    (closing tail).foldlM step reading >>= resolve = .ok next ↔
      ∃ settled, reading.resolve = .ok settled ∧ next = settled.close tail := by
  cases tail with
  | none =>
      have isSame {settled : Reading} (isSettled : reading.resolve = .ok settled) :
          settled.close none = settled := by
        simp only [close, Option.getD_none, List.append_nil, Option.isSome_none, ← isOpen,
          ← (resolve_eq_ok isSettled).2]
      constructor
      · intro isRead
        exact ⟨next, isRead, (isSame isRead).symm⟩
      · rintro ⟨settled, isSettled, rfl⟩
        exact isSettled.trans (congrArg _ (isSame isSettled).symm)
  | some fragments =>
      have isStep : reading.step "--" = pure { reading with onlyFragments := true } := by
        rw [step, isOpen]
        rfl
      change ("--" :: fragments).foldlM step reading >>= resolve = _ ↔ _
      rw [List.foldlM_cons, isStep, pure_bind, foldlM_fragments rfl, resolve_closed]
      cases reading.resolve <;> simp [close, Except.map]

/-! ### Reading a command line -/

/-- What has been read are these items, of which the last may still have to be taken in. -/
structure Ready (reading : Reading) (items : List Item) : Prop where
  isOpen : reading.onlyFragments = false
  isNotWaiting : ∀ setting, reading.pending ≠ some (setting, none)
  resolve_iff : ∀ settled, reading.resolve = .ok settled ↔
    Admissible items ∧ settled = ofItems items

theorem ready_ofItems {items : List Item} (isAdmissible : Admissible items) :
    Ready (ofItems items) items where
  isOpen := rfl
  isNotWaiting := by simp [ofItems]
  resolve_iff settled := by
    rw [resolve_none rfl]
    simp [isAdmissible, eq_comm]

theorem ready_given (isAdmissible : Admissible items) (setting : Setting) (value : String) :
    Ready ((ofItems items).holding setting (some value)) (items ++ [.setting setting value])  where
  isOpen := rfl
  isNotWaiting := by simp [holding]
  resolve_iff _ := takeIn_ofItems isAdmissible (.setting setting value)

namespace Ready

variable {items more : List Item} {arguments : List String} {setting : Setting}

theorem act_items (ready : Ready reading items) :
    reading.act (.items more) = .ok next ↔
      Admissible (items ++ more) ∧ next = ofItems (items ++ more) := by
  rw [act, bind_eq_ok]
  constructor
  · rintro ⟨settled, isSettled, isTaken⟩
    obtain ⟨isAdmissible, rfl⟩ := (ready.resolve_iff settled).mp isSettled
    exact (foldlM_takeIn isAdmissible).mp isTaken
  · intro isAll
    exact ⟨_, (ready.resolve_iff _).mpr ⟨isAll.1.left, rfl⟩, (foldlM_takeIn isAll.1.left).mpr isAll⟩

theorem act_opening (ready : Ready reading items) :
    reading.act (.opening setting) = .ok next ↔
      Admissible items ∧ next = (ofItems items).holding setting none := by
  simp [act, bind_eq_ok, ready.resolve_iff, and_assoc, eq_comm (b := next)]

theorem foldlM_step (ready : Ready reading items)
    (areOthers : ∀ argument ∈ arguments, argument ≠ "--") (tail : Option (List String)) :
    (arguments ++ closing tail).foldlM step reading >>= resolve = .ok next ↔
      ∃ more, itemsOf? arguments = some more ∧ Admissible (items ++ more) ∧
        next = (ofItems (items ++ more)).close tail := by
  -- The induction is on what the arguments say: an option takes the argument behind it with it.
  fun_induction itemsOf? arguments generalizing reading items with
  | case1 => simp [foldlM_closing ready.isOpen, ready.resolve_iff, and_assoc]
  | case2 argument said rest isSaid ih =>
      obtain ⟨isOther, areOthers⟩ := List.forall_mem_cons.mp areOthers
      rw [List.cons_append, foldlM_cons_eq_ok ready.isOpen isOther fun _ => ready.isNotWaiting,
        isSaid]
      simp only [Option.some.injEq, exists_eq_left', ready.act_items, and_assoc, exists_and_left,
        exists_eq_left]
      by_cases isAll : Admissible (items ++ said)
      · simpa [isAll] using ih (ready_ofItems isAll) areOthers
      · have isNone (more : List Item) : ¬Admissible (items ++ (said ++ more)) :=
          fun isLonger => isAll (List.append_assoc .. ▸ isLonger).left
        simp [isAll, isNone]
  | case3 argument setting value rest isSaid isPlain ih =>
      obtain ⟨isOther, _, areOthers⟩ := by simpa only [List.forall_mem_cons] using areOthers
      have isValue : ((ofItems items).holding setting none).step value =
          pure ((ofItems items).holding setting (some value)) := by
        rw [step_plain rfl isPlain]
        rfl
      rw [List.cons_append, foldlM_cons_eq_ok ready.isOpen isOther fun _ => ready.isNotWaiting,
        isSaid]
      by_cases isAdmissible : Admissible items
      · have isRest := ih (ready_given isAdmissible setting value) areOthers
        simp only [Option.some.injEq, exists_eq_left', ready.act_opening, and_assoc,
          exists_and_left, exists_eq_left]
        rw [List.cons_append, List.foldlM_cons, isValue, pure_bind]
        simpa [isAdmissible] using isRest
      · have isNone (more : List Item) : ¬Admissible (items ++ more) :=
          fun isLonger => isAdmissible isLonger.left
        simp [ready.act_opening, isAdmissible, isNone]
  | case4 argument setting value rest isSaid isOption =>
      obtain ⟨isOther, isOtherValue, _⟩ := by simpa only [List.forall_mem_cons] using areOthers
      have isRefused := @foldlM_cons_eq_ok ((ofItems items).holding setting none) next value rfl
        (rest ++ closing tail) isOtherValue fun isPlain => absurd isPlain isOption
      rw [List.cons_append, foldlM_cons_eq_ok ready.isOpen isOther fun _ => ready.isNotWaiting,
        isSaid]
      simp only [Option.some.injEq, exists_eq_left', ready.act_opening, and_assoc, exists_and_left,
        exists_eq_left, List.cons_append, isRefused]
      simp [act, holding, resolve, bind, Except.bind]
  | case5 argument rest isNone isShort =>
      obtain ⟨isOther, _⟩ := List.forall_mem_cons.mp areOthers
      rw [List.cons_append, foldlM_cons_eq_ok ready.isOpen isOther fun _ => ready.isNotWaiting]
      simp only [reduceCtorEq, false_and, exists_false, iff_false]
      rintro ⟨_ | setting, isSaid, between, isBetween, isRead⟩
      · exact isNone _ isSaid
      · cases rest with
        | nil =>
            obtain ⟨_, rfl⟩ := ready.act_opening.mp isBetween
            obtain ⟨settled, isSettled, _⟩ := (@foldlM_closing _ _ tail rfl).mp isRead
            cases isSettled
        | cons value rest => exact isShort _ _ _ isSaid rfl

end Ready

/-! ### Other orders -/

theorem modes_cases {options : Options} (isGiven : reading.options = .ok options) :
    reading.modes = [] ∧ options.mode = .clean ∨
      ∃ mode, reading.modes = [mode] ∧ options.mode = mode.runMode := by
  rw [Reading.options] at isGiven
  rcases areModes : reading.modes with _ | ⟨first, _ | ⟨second, rest⟩⟩ <;>
    rw [areModes] at isGiven
  · obtain rfl := Except.ok.inj isGiven
    exact Or.inl ⟨rfl, rfl⟩
  · obtain rfl := Except.ok.inj isGiven
    exact Or.inr ⟨first, rfl, rfl⟩
  · cases isGiven

section Perm

variable {items others : List Item} (areSame : others.Perm items)

include areSame

theorem Admissible.perm (isAdmissible : Admissible items) : Admissible others := by
  obtain ⟨isNoHelp, isNoVersion, areModes, areSettings, areChecked⟩ := isAdmissible
  have sameSettings := areSame.filterMap Item.setting?
  refine ⟨areSame.mem_iff.not.mpr isNoHelp, areSame.mem_iff.not.mpr isNoVersion,
    (areSame.filterMap _).nodup_iff.mpr areModes,
    (sameSettings.map _).nodup_iff.mpr areSettings, ?_⟩
  exact fun setting value isThere => areChecked setting value (sameSettings.mem_iff.mp isThere)

theorem lookup_perm (isAdmissible : Admissible items) (setting : Setting) :
    (ofItems others).settings.lookup setting = (ofItems items).settings.lookup setting := by
  have isThere {items : List Item} (isAdmissible : Admissible items) (value : String) :
      (ofItems items).settings.lookup setting = some value ↔
        (setting, value) ∈ items.filterMap Item.setting? := by
    have areOnce : ((ofItems items).settings.map Prod.fst).Nodup := by
      rw [ofItems, List.map_reverse, List.nodup_reverse]
      exact isAdmissible.areSettingsOnce
    rw [Config.lookup_eq_some_iff areOnce, ofItems, List.mem_reverse]
  refine Option.ext fun value => ?_
  rw [isThere isAdmissible, isThere (Admissible.perm areSame isAdmissible)]
  exact (areSame.filterMap _).mem_iff

/-- The order of items does not matter but for the fragments. -/
theorem options_perm {options : Options} {tail : Option (List String)}
    (isAdmissible : Admissible items)
    (isGiven : ((ofItems items).close tail).options = .ok options)
    (sameFragments : others.filterMap Item.fragment? = items.filterMap Item.fragment?)
    (otherTail : Option (List String)) :
    ((ofItems others).close otherTail).options =
      .ok { options with fragments := items.filterMap Item.fragment? ++ otherTail.getD [] } := by
  have sameModes : (ofItems others).modes = (ofItems items).modes := by
    have areSameModes : (ofItems others).modes.Perm (ofItems items).modes :=
      areSame.filterMap Item.mode?
    rcases modes_cases isGiven with ⟨areModes, _⟩ | ⟨mode, areModes, _⟩ <;>
      rw [close] at areModes <;> rw [areModes] at areSameModes ⊢
    · exact areSameModes.eq_nil
    · exact areSameModes.eq_singleton
  have sameVerbose : (ofItems others).verbose = (ofItems items).verbose :=
    congrArg (min 255) (areSame.count_eq _)
  have sameFragments : (ofItems others).fragments = (ofItems items).fragments := sameFragments
  rw [Reading.options] at isGiven ⊢
  simp only [close, sameModes, lookup_perm areSame isAdmissible, sameVerbose,
    sameFragments] at isGiven ⊢
  split at isGiven
  · cases isGiven
  · obtain rfl := Except.ok.inj isGiven
    rfl

end Perm

end Reading

open Reading in
theorem parse_eq_ok {arguments : List String} (areOthers : "--" ∉ arguments)
    {tail : Option (List String)} {options : Options} :
    parse (arguments ++ closing tail) = .ok options ↔
      ∃ items, itemsOf? arguments = some items ∧ Admissible items ∧
        ((ofItems items).close tail).options = .ok options := by
  have isStart : Ready {} [] := @ready_ofItems [] (by simp [admissible_iff])
  have areOthers : ∀ argument ∈ arguments, argument ≠ "--" :=
    fun argument isThere isSame => areOthers (isSame ▸ isThere)
  have isParse : parse (arguments ++ closing tail) =
      ((arguments ++ closing tail).foldlM step {} >>= resolve) >>= Reading.options := by
    rw [bind_assoc]
    rfl
  rw [isParse, bind_eq_ok]
  simp only [isStart.foldlM_step areOthers, List.nil_append]
  grind

/-- Other arguments that say the same, with the fragments in the same order, give the same options;
what stands behind the separator is added to the fragments as it is.  At most one mode is given. -/
theorem parse_order {arguments : List String} {tail : Option (List String)} {options : Options}
    (areOthers : "--" ∉ arguments) (isParsed : parse (arguments ++ closing tail) = .ok options) :
    ∃ items, itemsOf? arguments = some items ∧
      (items.filterMap Item.mode? = [] ∧ options.mode = .clean ∨
        ∃ mode, items.filterMap Item.mode? = [mode] ∧ options.mode = mode.runMode) ∧
      options.fragments = items.filterMap Item.fragment? ++ tail.getD [] ∧
      ∀ others otherItems otherTail, "--" ∉ others → itemsOf? others = some otherItems →
        otherItems.Perm items →
        otherItems.filterMap Item.fragment? = items.filterMap Item.fragment? →
        parse (others ++ closing otherTail) =
          .ok { options with fragments := items.filterMap Item.fragment? ++ otherTail.getD [] } := by
  obtain ⟨items, areItems, isAdmissible, isGiven⟩ := (parse_eq_ok areOthers).mp isParsed
  refine ⟨items, areItems, Reading.modes_cases isGiven, ?_, ?_⟩
  · have isSame := Reading.options_perm (List.Perm.refl items) isAdmissible isGiven rfl tail
    exact congrArg Options.fragments (Except.ok.inj (isGiven.symm.trans isSame))
  · intro others otherItems otherTail areOthers areOtherItems areSame sameFragments
    exact (parse_eq_ok areOthers).mpr ⟨otherItems, areOtherItems,
      Reading.Admissible.perm areSame isAdmissible,
      Reading.options_perm areSame isAdmissible isGiven sameFragments otherTail⟩

theorem parse_order_respelled :
    parse ["a", "--timeout-ms", "5", "-u", "-", "--root=x", "--verbose", "--", "--", "-d"] =
      .ok
        { mode := .update
          root := "x"
          timeoutMs := some 5
          verbose := 1
          fragments := ["a", "-", "--", "-d"] } := by
  obtain ⟨items, areItems, _, _, isSame⟩ :=
    @parse_order ["-vu", "--root", "x", "a", "--timeout-ms=5", "-"] none
      { mode := .update, root := "x", timeoutMs := some 5, verbose := 1, fragments := ["a", "-"] }
      (by decide) (by decide +kernel)
  have isSaid : itemsOf? ["-vu", "--root", "x", "a", "--timeout-ms=5", "-"] = some
      [.flag .verbose, .flag (.mode .update), .setting .root "x", .fragment "a",
        .setting .timeoutMs "5", .fragment "-"] := by
    decide +kernel
  obtain rfl := Option.some.inj (isSaid.symm.trans areItems)
  exact isSame ["a", "--timeout-ms", "5", "-u", "-", "--root=x", "--verbose"]
    [.fragment "a", .setting .timeoutMs "5", .flag (.mode .update), .fragment "-",
      .setting .root "x", .flag .verbose]
    (some ["--", "-d"]) (by decide) (by decide +kernel) (by decide +kernel) rfl

end FixtureRunner.CommandLine
