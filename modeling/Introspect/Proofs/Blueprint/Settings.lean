import Introspect.Blueprint.Setting
import Introspect.Proofs.Code.Literal
import Introspect.Proofs.Outcome
import Mathlib.Data.List.Induction

/-!
# What attributes hold

The settings of a type and those of a field are spelled alike: a word for what is switched on, a
word and a text for a name, commas between them, and one more after the last if one likes. This is
all that is read, and nothing else is.

* `Setting`: a kind of settings, with how they are read.
* `Setting.Spells`, `Setting.Lists`, `Setting.Gives`, `Setting.Holds`: the trees of one setting and
  of several, and the attributes that give them.
* `Setting.inAttribute`: settings in an attribute; `Setting.merge`: settings as one of each kind.

Main results:

* `settings_eq_ok_iff`, `ofAttributes_eq_ok_iff`: what is spelled is read, and nothing else.
* `holds_inAttribute`: an attribute holds the settings that were written into it.
* `mem_merge_iff`, `lastText?_merge`: what is left of settings that are merged.
-/

namespace Introspect

open Code

/-! ## Kinds of settings -/

/-- The trees of a setting that is a word, or a word that gives a text. -/
inductive SpelledAs (word : String) : Option String → List Tree → Prop where
  | flag : SpelledAs word none [.word word]
  | naming {text literal : String} {joint : Bool} (hText : stringText? literal = some text) :
      SpelledAs word (some text) [.word word, .mark '=' joint, .literal literal]

/-- A kind of settings that are read from attributes. -/
class Setting (α : Type) where
  /-- The word that a setting is, or begins with. -/
  word : α → String
  /-- The text that a setting gives. -/
  text? : α → Option String
  IsAllowed : α → Prop
  /-- The settings that give no text. -/
  flags : List α
  reader : SettingReader α
  mem_flags_iff : ∀ {setting}, setting ∈ flags ↔ text? setting = none
  /-- What is read is spelled by the word and what is taken after it. -/
  reader_eq_ok_iff : ∀ {word? rest setting after}, reader word? rest = .ok (setting, after) ↔
    IsAllowed setting ∧ ∃ front, word? = some (word setting) ∧ rest = front ++ after ∧
      SpelledAs (word setting) (text? setting) (.word (word setting) :: front)

/-- What follows a single mark is left, whether or not the mark is joined to what follows. -/
theorem afterOperator?_single_iff {c : Char} {trees rest : List Tree} :
    afterOperator? [c] trees = some rest ↔ ∃ joint, trees = .mark c joint :: rest := by
  constructor
  · intro h
    -- nothing but the mark itself begins what it is looked for in
    cases trees with
    | nil => cases h
    | cons tree others =>
      cases tree with
      | mark d joint =>
        simp only [afterOperator?, Option.ite_none_right_eq_some, beq_iff_eq,
          Option.some.injEq] at h
        obtain ⟨rfl, rfl⟩ := h
        exact ⟨joint, rfl⟩
      | _ => cases h
  · rintro ⟨joint, rfl⟩
    simp [afterOperator?]

/-- A name is read behind a sign of equality, from a literal for a text. -/
theorem SettingReader.name_eq_ok_iff {trees after : List Tree} {text : String} :
    SettingReader.name trees = .ok (text, after) ↔ ∃ joint literal,
      trees = .mark '=' joint :: .literal literal :: after ∧ stringText? literal = some text := by
  constructor
  · intro h
    -- the three failures are a missing sign, a missing literal, and one that is no text
    unfold SettingReader.name at h
    split at h
    · cases h
    · rename_i rest hEquals
      obtain ⟨joint, rfl⟩ := afterOperator?_single_iff.mp hEquals
      split at h
      · rename_i literal after'
        split at h
        · rename_i text' hText
          cases h
          exact ⟨joint, literal, rfl, hText⟩
        · cases h
      · cases h
  · rintro ⟨joint, literal, rfl, hText⟩
    simp [SettingReader.name, afterOperator?, hText]

/-- A name that is read after a word spells a setting with that word. -/
theorem SpelledAs.of_name {word text : String} {rest after : List Tree}
    (h : SettingReader.name rest = .ok (text, after)) :
    ∃ front, rest = front ++ after ∧ SpelledAs word (some text) (.word word :: front) := by
  obtain ⟨joint, literal, rfl, hText⟩ := SettingReader.name_eq_ok_iff.mp h
  exact ⟨[.mark '=' joint, .literal literal], rfl, .naming hText⟩

/-- A setting that gives a text is read to the end of its literal. -/
theorem SpelledAs.name_eq_ok {word text : String} {front after : List Tree}
    (h : SpelledAs word (some text) (.word word :: front)) :
    SettingReader.name (front ++ after) = .ok (text, after) := by
  obtain _ | @⟨_, literal, joint, hText⟩ := h
  exact SettingReader.name_eq_ok_iff.mpr ⟨joint, literal, rfl, hText⟩

instance : Setting TypeSetting where
  word
    | .hasDefault => "default"
    | .autoRegister => "auto_register"
    | .typeName _ => "type_name"
  text?
    | .typeName name => some name
    | _ => none
  IsAllowed setting := setting ≠ .typeName ""
  flags := [.hasDefault, .autoRegister]
  reader := TypeSetting.reader
  mem_flags_iff := by rintro (_ | _ | name) <;> simp
  reader_eq_ok_iff := by
    intro word? rest setting after
    constructor
    · intro h
      unfold TypeSetting.reader at h
      split at h
      · cases h
        exact ⟨nofun, [], rfl, rfl, .flag⟩
      · cases h
        exact ⟨nofun, [], rfl, rfl, .flag⟩
      · -- a name may not be empty
        obtain ⟨⟨name, rest⟩, hName, hRest⟩ := bind_eq_ok_iff.mp h
        obtain ⟨front, rfl, hSpelled⟩ := SpelledAs.of_name hName
        dsimp only at hRest
        split at hRest
        · cases hRest
        · rename_i hFull
          cases hRest
          refine ⟨?_, front, rfl, rfl, hSpelled⟩
          rintro ⟨⟩
          exact hFull rfl
      · cases h
    · rintro ⟨hAllowed, front, rfl, rfl, hSpelled⟩
      -- each setting is read back from its spelling
      cases setting with
      | hasDefault =>
        cases hSpelled
        rfl
      | autoRegister =>
        cases hSpelled
        rfl
      | typeName name =>
        have hFull : ¬name.isEmpty = true := fun hEmpty =>
          hAllowed (congrArg TypeSetting.typeName (String.isEmpty_iff.mp hEmpty))
        exact bind_eq_ok_iff.mpr ⟨(name, after), hSpelled.name_eq_ok, if_neg hFull⟩

instance : Setting FieldSetting where
  word
    | .skip => "skip"
    | .readOnly => "read_only"
    | .rename _ => "rename"
  text?
    | .rename name => some name
    | _ => none
  IsAllowed _ := True
  flags := [.skip, .readOnly]
  reader := FieldSetting.reader
  mem_flags_iff := by rintro (_ | _ | name) <;> simp
  reader_eq_ok_iff := by
    intro word? rest setting after
    constructor
    · intro h
      unfold FieldSetting.reader at h
      split at h
      · cases h
        exact ⟨trivial, [], rfl, rfl, .flag⟩
      · cases h
        exact ⟨trivial, [], rfl, rfl, .flag⟩
      · -- any name will do
        obtain ⟨⟨name, rest⟩, hName, hRest⟩ := bind_eq_ok_iff.mp h
        obtain ⟨front, rfl, hSpelled⟩ := SpelledAs.of_name hName
        cases hRest
        exact ⟨trivial, front, rfl, rfl, hSpelled⟩
      · cases h
    · rintro ⟨-, front, rfl, rfl, hSpelled⟩
      -- each setting is read back from its spelling
      cases setting with
      | skip =>
        cases hSpelled
        rfl
      | readOnly =>
        cases hSpelled
        rfl
      | rename name => exact bind_eq_ok_iff.mpr ⟨(name, after), hSpelled.name_eq_ok, rfl⟩

/-- Settings that are added one by one come to their summary, if one more setting makes of a summary
that of the settings with this one at their end. -/
theorem foldl_eq_summary {α β : Type} {add : β → α → β} {summary : List α → β}
    (hAdd : ∀ settings setting, summary (settings ++ [setting]) = add (summary settings) setting)
    (settings : List α) : settings.foldl add (summary []) = summary settings := by
  -- the last setting is added to what those before it come to
  induction settings using List.reverseRecOn with
  | nil => rfl
  | append_singleton settings setting ih =>
    rw [List.foldl_append, ih, hAdd]
    rfl

namespace Setting

variable {α : Type} [Setting α] {setting : α} {settings : List α} {trees rest after : List Tree}
  {found : String} {attributes : List Attribute}

/-! ## Spelling -/

/-- Trees that spell a setting. -/
def Spells (setting : α) (trees : List Tree) : Prop :=
  IsAllowed setting ∧ SpelledAs (word setting) (text? setting) trees

/-- Trees that list settings: commas between them, and perhaps one after the last. -/
inductive Lists : List Tree → List α → Prop where
  | nil : Lists [] []
  | last {trees : List Tree} {setting : α} (h : Spells setting trees) : Lists trees [setting]
  | more {trees rest : List Tree} {joint : Bool} {setting : α} {settings : List α}
      (h : Spells setting trees) (hRest : Lists rest settings) :
      Lists (trees ++ .mark ',' joint :: rest) (setting :: settings)

/-- An attribute gives the settings that are listed in its group. -/
def Gives (carrier : Attribute) (settings : List α) : Prop :=
  ∃ inner, carrier.body = .group inner ∧ Lists inner settings

/-- What the `describe` attributes among some attributes give, one after the other. -/
inductive Holds : List Attribute → List α → Prop where
  | nil : Holds [] []
  | other {carrier : Attribute} {attributes : List Attribute} {settings : List α}
      (hOther : carrier.path.word? ≠ some "describe") (hRest : Holds attributes settings) :
      Holds (carrier :: attributes) settings
  | describe {carrier : Attribute} {attributes : List Attribute} {given settings : List α}
      (hDescribe : carrier.path.word? = some "describe") (hGives : Gives carrier given)
      (hRest : Holds attributes settings) : Holds (carrier :: attributes) (given ++ settings)

/-! ## Reading -/

/-- Trees go on with two colons. -/
def GoesOn (trees : List Tree) : Prop :=
  ∃ joint rest, trees = .mark ':' true :: .mark ':' joint :: rest

theorem not_goesOn_nil : ¬GoesOn [] := by
  rintro ⟨_, _, h⟩
  cases h

theorem not_goesOn_comma {joint : Bool} : ¬GoesOn (.mark ',' joint :: rest) := by
  rintro ⟨_, _, h⟩
  cases h

/-- Where no more words of a path are found, there are no colons. -/
theorem eq_of_moreWords (h : SettingReader.moreWords trees = .ok (false, rest)) :
    rest = trees ∧ ¬GoesOn trees := by
  unfold SettingReader.moreWords at h
  split at h
  · obtain ⟨held, -, hPair⟩ := map_eq_ok_iff.mp h
    cases hPair
  · cases h
  · rename_i hWord hOther
    cases h
    refine ⟨rfl, ?_⟩
    rintro ⟨joint, rest, rfl⟩
    exact hOther _ _ rfl

/-- Where there are no colons, no more words of a path are found. -/
theorem moreWords_of_not_goesOn (h : ¬GoesOn trees) :
    SettingReader.moreWords trees = .ok (false, trees) := by
  unfold SettingReader.moreWords
  split
  · exact absurd ⟨_, _, rfl⟩ h
  · exact absurd ⟨_, _, rfl⟩ h
  · rfl

/-- The path of a setting is a word where the word is all of it. -/
theorem path_eq_ok_iff :
    SettingReader.path trees = .ok (some found, rest) ↔
      trees = .word found :: rest ∧ ¬GoesOn rest := by
  constructor
  · intro h
    unfold SettingReader.path at h
    cases hGlobal : afterOperator? [':', ':'] trees with
    | some more =>
      -- a path that begins with colons is no word
      rw [hGlobal] at h
      simp only [Option.getD_some, Option.isSome_some, Bool.true_or, if_true] at h
      split at h
      · cases h
      · obtain ⟨⟨hasMore, after⟩, -, hPair⟩ := bind_eq_ok_iff.mp h
        cases hPair
      · cases h
    | none =>
      rw [hGlobal] at h
      simp only [Option.getD_none, Option.isSome_none, Bool.false_or] at h
      split at h
      -- without colons in front, the path is a word and what follows it
      · cases h
      · obtain ⟨⟨hasMore, after⟩, hMore, hPair⟩ := bind_eq_ok_iff.mp h
        cases hasMore
        · obtain ⟨rfl, hEnds⟩ := eq_of_moreWords hMore
          cases hPair
          exact ⟨rfl, hEnds⟩
        · cases hPair
      · cases h
  · rintro ⟨rfl, hEnds⟩
    simp [SettingReader.path, afterOperator?, moreWords_of_not_goesOn hEnds, bind, Except.bind,
      pure, Except.pure]

/-- What spells a setting is its word, and then no more words of a path. -/
theorem Spells.exists_front (h : Spells setting trees) :
    ∃ front, trees = .word (word setting) :: front ∧
      ∀ after, ¬GoesOn after → ¬GoesOn (front ++ after) := by
  obtain ⟨-, hSpelled⟩ := h
  -- a word alone leaves nothing, and a text leaves its sign of equality
  generalize text? setting = given at hSpelled
  cases hSpelled with
  | flag => exact ⟨[], rfl, fun _ hAfter => hAfter⟩
  | naming hText =>
    refine ⟨_, rfl, fun after _ hMore => ?_⟩
    obtain ⟨_, _, hTrees⟩ := hMore
    cases hTrees

/-- A setting is read, and what follows it is left. -/
theorem read_eq_ok_iff :
    (SettingReader.path trees >>= fun (word?, rest) => (reader word? rest : Except _ (α × _))) =
        .ok (setting, after) ↔
      ∃ front, trees = front ++ after ∧ Spells setting front ∧ ¬GoesOn (front.tail ++ after) := by
  rw [bind_eq_ok_iff]
  constructor
  · rintro ⟨⟨word?, rest⟩, hPath, hRead⟩
    -- the reader takes what the word does not
    obtain ⟨hAllowed, front, rfl, rfl, hSpelled⟩ := reader_eq_ok_iff.mp hRead
    obtain ⟨rfl, hEnds⟩ := path_eq_ok_iff.mp hPath
    exact ⟨.word (word setting) :: front, rfl, ⟨hAllowed, hSpelled⟩, hEnds⟩
  · rintro ⟨trees, rfl, hSpells, hEnds⟩
    obtain ⟨front, rfl, -⟩ := hSpells.exists_front
    exact ⟨(some (word setting), front ++ after), path_eq_ok_iff.mpr ⟨rfl, hEnds⟩,
      reader_eq_ok_iff.mpr ⟨hSpells.1, front, rfl, rfl, hSpells.2⟩⟩

/-- What is read is listed. -/
theorem lists_of_settingsIn {rounds : Nat} (hRounds : trees.length ≤ rounds)
    (h : SettingReader.settingsIn reader rounds trees = .ok settings) : Lists trees settings := by
  induction rounds generalizing trees settings with
  | zero =>
    -- the rounds run out only where the trees do: each of them takes a tree or more
    cases List.eq_nil_of_length_eq_zero (Nat.le_zero.mp hRounds)
    cases h
    exact .nil
  | succ rounds ih =>
    unfold SettingReader.settingsIn at h
    split at h
    · rename_i hEmpty
      cases List.isEmpty_iff.mp hEmpty
      cases h
      exact .nil
    · -- the first setting, and what follows it
      obtain ⟨⟨word?, rest⟩, hPath, hGoOn⟩ := bind_eq_ok_iff.mp h
      obtain ⟨⟨setting, after⟩, hRead, hOthers⟩ := bind_eq_ok_iff.mp hGoOn
      obtain ⟨front, rfl, hSpells, -⟩ :=
        read_eq_ok_iff.mp (bind_eq_ok_iff.mpr ⟨(word?, rest), hPath, hRead⟩)
      dsimp only at hOthers
      split at hOthers
      · -- nothing follows it
        rename_i hEnd
        cases List.isEmpty_iff.mp hEnd
        cases hOthers
        rw [List.append_nil]
        exact .last hSpells
      · -- a comma follows it, and other settings after that
        split at hOthers
        · cases hOthers
        · rename_i others hComma
          obtain ⟨joint, rfl⟩ := afterOperator?_single_iff.mp hComma
          obtain ⟨more, hMore, hPair⟩ := bind_eq_ok_iff.mp hOthers
          cases hPair
          rw [List.length_append, List.length_cons] at hRounds
          exact .more hSpells (ih (by omega) hMore)

/-- The first round of reading settings that begin with one. -/
theorem settingsIn_succ (rounds : Nat) (h : Spells setting trees)
    (hEnds : ¬GoesOn (trees.tail ++ after)) :
    SettingReader.settingsIn reader (rounds + 1) (trees ++ after) =
      if after.isEmpty then .ok [setting]
      else match afterOperator? [','] after with
        | none => .error .missingComma
        | some rest => (SettingReader.settingsIn reader rounds rest).map (setting :: ·) := by
  obtain ⟨front, rfl, -⟩ := h.exists_front
  -- the first setting is read by itself
  obtain ⟨⟨word?, rest⟩, hPath, hRead⟩ := bind_eq_ok_iff.mp
    (read_eq_ok_iff.mpr ⟨.word (word setting) :: front, rfl, h, hEnds⟩)
  rw [SettingReader.settingsIn, hPath]
  dsimp only at hRead
  simp only [List.cons_append, List.isEmpty_cons, Bool.false_eq_true, if_false, bind, Except.bind,
    hRead]
  -- a comma and nothing else may follow it
  split
  · rfl
  · cases afterOperator? [','] after with
    | none => rfl
    | some others =>
      cases SettingReader.settingsIn (@reader α _) rounds others <;> rfl

/-- What is listed is read. -/
theorem Lists.settingsIn (h : Lists trees settings) {rounds : Nat}
    (hRounds : trees.length ≤ rounds) :
    SettingReader.settingsIn reader rounds trees = .ok settings := by
  induction h generalizing rounds with
  | nil => cases rounds <;> rfl
  | last hSpells =>
    obtain ⟨front, rfl, hGoesOn⟩ := hSpells.exists_front
    obtain ⟨rounds, rfl⟩ : ∃ more, rounds = more + 1 := Nat.exists_eq_add_one.mpr (by
      rw [List.length_cons] at hRounds
      omega)
    have hRead := settingsIn_succ rounds hSpells (hGoesOn [] not_goesOn_nil)
    rwa [List.append_nil] at hRead
  | @more trees rest joint setting settings hSpells hRest ih =>
    obtain ⟨front, rfl, hGoesOn⟩ := hSpells.exists_front
    simp only [List.length_append, List.length_cons] at hRounds
    -- a comma ends the path of the setting before it, so the first round stops there
    obtain ⟨rounds, rfl⟩ : ∃ more, rounds = more + 1 := Nat.exists_eq_add_one.mpr (by omega)
    have hComma : afterOperator? [','] (.mark ',' joint :: rest) = some rest :=
      afterOperator?_single_iff.mpr ⟨joint, rfl⟩
    rw [settingsIn_succ rounds hSpells (hGoesOn _ not_goesOn_comma), hComma]
    simp only [List.isEmpty_cons, Bool.false_eq_true, if_false]
    rw [ih (by omega)]
    rfl

/-- Settings are read where they are listed, and nowhere else. -/
theorem settings_eq_ok_iff :
    SettingReader.settings reader trees = .ok settings ↔ Lists trees settings :=
  ⟨fun h => lists_of_settingsIn (Nat.le_refl _) h, fun h => h.settingsIn (Nat.le_refl _)⟩

/-- The body of an attribute is read where its group lists settings. -/
theorem ofBody_eq_ok_iff {carrier : Attribute} :
    SettingReader.ofBody reader carrier.body = .ok settings ↔ Gives carrier settings := by
  unfold Gives
  cases carrier.body with
  | group inner => simp [SettingReader.ofBody, settings_eq_ok_iff]
  | _ => simp [SettingReader.ofBody]

/-- **Attributes have the settings that their `describe` attributes hold**, and if one of these
gives none, there are none at all. -/
theorem ofAttributes_eq_ok_iff :
    SettingReader.ofAttributes reader attributes = .ok settings ↔ Holds attributes settings := by
  unfold SettingReader.ofAttributes
  induction attributes generalizing settings with
  | nil =>
    constructor
    · intro h
      cases h
      exact .nil
    · intro h
      cases h
      rfl
  | cons carrier attributes ih =>
    -- only a `describe` attribute is read at all
    by_cases hDescribe : carrier.path.word? = some "describe"
    · rw [List.filter_cons_of_pos (by simpa using hDescribe)]
      constructor
      · intro h
        -- the first of them is read before the others
        obtain ⟨found, hFound, hFlat⟩ := bind_eq_ok_iff.mp h
        obtain ⟨given, more, hGiven, hMore, rfl⟩ := mapM_cons_eq_ok_iff.mp hFound
        cases hFlat
        exact .describe hDescribe (ofBody_eq_ok_iff.mp hGiven)
          (ih.mp (bind_eq_ok_iff.mpr ⟨more, hMore, rfl⟩))
      · rintro (_ | ⟨hOther, -⟩ | ⟨-, hGives, hRest⟩)
        · exact absurd hDescribe hOther
        · obtain ⟨more, hMore, hFlat⟩ := bind_eq_ok_iff.mp (ih.mpr hRest)
          cases hFlat
          exact bind_eq_ok_iff.mpr
            ⟨_, mapM_cons_eq_ok_iff.mpr ⟨_, more, ofBody_eq_ok_iff.mpr hGives, hMore, rfl⟩, rfl⟩
    · -- other attributes are passed over
      rw [List.filter_cons_of_neg (by simpa using hDescribe), ih]
      constructor
      · exact .other hDescribe
      · rintro (_ | ⟨-, hRest⟩ | ⟨hHere, -, -⟩)
        · exact hRest
        · exact absurd hHere hDescribe

/-- What attributes come to is the summary of the settings that they hold. -/
theorem foldl_ofAttributes_eq_ok_iff {β : Type} {add : β → α → β} {summary : List α → β} {whole : β}
    (hAdd : ∀ settings setting, summary (settings ++ [setting]) = add (summary settings) setting) :
    (SettingReader.ofAttributes reader attributes).map (·.foldl add (summary [])) = .ok whole ↔
      ∃ settings, Holds attributes settings ∧ summary settings = whole := by
  simp only [map_eq_ok_iff, ofAttributes_eq_ok_iff, foldl_eq_summary hAdd]

/-- Attributes hold one list of settings. -/
theorem Holds.unique {others : List α} (h : Holds attributes settings)
    (hOthers : Holds attributes others) : settings = others :=
  Except.ok.inj ((ofAttributes_eq_ok_iff.mpr h).symm.trans (ofAttributes_eq_ok_iff.mpr hOthers))

/-- Where attributes hold settings, each `describe` attribute among them gives some. -/
theorem Holds.gives {carrier : Attribute} (h : Holds attributes settings)
    (hMem : carrier ∈ attributes) (hDescribe : carrier.path.word? = some "describe") :
    ∃ given : List α, Gives carrier given := by
  induction h with
  | nil => cases hMem
  | other hOther _ ih =>
    rcases List.mem_cons.mp hMem with rfl | hMem
    · exact absurd hDescribe hOther
    · exact ih hMem
  | describe _ hGives _ ih =>
    rcases List.mem_cons.mp hMem with rfl | hMem
    · exact ⟨_, hGives⟩
    · exact ih hMem

/-- None but allowed settings are listed. -/
theorem Lists.isAllowed (h : Lists trees settings) (hMem : setting ∈ settings) :
    IsAllowed setting := by
  induction h with
  | nil => cases hMem
  | last hSpells =>
    obtain rfl := List.mem_singleton.mp hMem
    exact hSpells.1
  | more hSpells _ ih =>
    rcases List.mem_cons.mp hMem with rfl | hMem
    · exact hSpells.1
    · exact ih hMem

/-- Attributes hold none but allowed settings. -/
theorem Holds.isAllowed (h : Holds attributes settings) (hMem : setting ∈ settings) :
    IsAllowed setting := by
  induction h with
  | nil => cases hMem
  | other _ _ ih => exact ih hMem
  | describe _ hGives _ ih =>
    obtain ⟨inner, -, hLists⟩ := hGives
    rcases List.mem_append.mp hMem with hMem | hMem
    · exact hLists.isAllowed hMem
    · exact ih hMem

/-! ## Writing -/

/-- The trees of a setting. -/
def spelling (setting : α) : List Tree :=
  match text? setting with
  | none => [.word (word setting)]
  | some text => [.word (word setting), .mark '=' false, .literal (quotedLiteral text)]

/-- The trees of several settings, with commas between them. -/
def written (settings : List α) : List Tree := [.mark ',' false].intercalate (settings.map spelling)

/-- The path of the attributes that give settings. -/
def describePath : PathForm := ⟨[.word "describe"], false, ["describe"], true, .bare⟩

/-- An attribute that gives some settings. -/
def inAttribute (settings : List α) : Attribute := ⟨describePath, .group (written settings)⟩

/-- A setting is spelled by its trees. -/
theorem spells_spelling (h : IsAllowed setting) : Spells setting (spelling setting) := by
  refine ⟨h, ?_⟩
  unfold spelling
  cases text? setting with
  | none => exact .flag
  | some text => exact .naming (stringText?_quotedLiteral text)

/-- Settings are listed by their trees, with commas between them. -/
theorem lists_written (h : ∀ setting ∈ settings, IsAllowed setting) :
    Lists (written settings) settings := by
  induction settings with
  | nil => exact .nil
  | cons setting settings ih =>
    have hSpells := spells_spelling (h setting List.mem_cons_self)
    -- no comma stands behind the last one
    cases settings with
    | nil => simpa [written] using Lists.last hSpells
    | cons next settings =>
      have hRest := ih fun other hMem => h other (List.mem_cons_of_mem _ hMem)
      simpa [written, List.intercalate] using @Lists.more α _ _ _ false _ _ hSpells hRest

/-- What is written into one more attribute is held before what the others hold. -/
theorem Holds.inAttribute {more : List α} (h : ∀ setting ∈ settings, IsAllowed setting)
    (hRest : Holds attributes more) :
    Holds (inAttribute settings :: attributes) (settings ++ more) :=
  .describe rfl ⟨_, rfl, lists_written h⟩ hRest

/-- **An attribute holds the settings that were written into it.** -/
theorem holds_inAttribute (h : ∀ setting ∈ settings, IsAllowed setting) :
    Holds [inAttribute settings] settings := by
  simpa using Holds.inAttribute h .nil

/-! ## Merging -/

/-- The last text among some settings. -/
def lastText? (settings : List α) : Option String := (settings.filterMap text?).getLast?

/-- Settings as one of each kind: the words among them, and the last one that gives a text. -/
def merge [DecidableEq α] (settings : List α) : List α :=
  flags.filter (· ∈ settings) ++ (settings.filter (text? · |>.isSome)).getLast?.toList

/-- One more setting gives the last text, if it gives any. -/
theorem lastText?_concat (settings : List α) (setting : α) :
    lastText? (settings ++ [setting]) = (text? setting).or (lastText? settings) := by
  unfold lastText?
  cases hText : text? setting <;> simp [List.filterMap_append, hText]

/-- The last text is that of the last setting that gives one. -/
theorem lastText?_eq_bind (settings : List α) :
    lastText? settings = (settings.filter (text? · |>.isSome)).getLast?.bind text? := by
  -- from the end, where the last text is
  induction settings using List.reverseRecOn with
  | nil => rfl
  | append_singleton settings setting ih =>
    rw [lastText?_concat, List.filter_append]
    cases hText : text? setting <;> simp [hText, ih]

section Merge

variable [DecidableEq α]

/-- Merging keeps the words. -/
theorem mem_merge_iff (hFlag : text? setting = none) :
    setting ∈ merge settings ↔ setting ∈ settings := by
  unfold merge
  rw [List.mem_append, List.mem_filter, mem_flags_iff, Option.mem_toList, decide_eq_true_eq]
  constructor
  · rintro (⟨-, hMem⟩ | hLast)
    · exact hMem
    · exact List.mem_of_mem_filter (List.mem_of_mem_getLast? hLast)
  · exact fun hMem => .inl ⟨hFlag, hMem⟩

/-- Merging adds nothing. -/
theorem mem_of_mem_merge (h : setting ∈ merge settings) : setting ∈ settings := by
  rcases List.mem_append.mp h with hFlag | hLast
  · exact of_decide_eq_true (List.mem_filter.mp hFlag).2
  · exact List.mem_of_mem_filter (List.mem_of_mem_getLast? (Option.mem_toList.mp hLast))

/-- Merging keeps the last text. -/
theorem lastText?_merge : lastText? (merge settings) = lastText? settings := by
  -- the words give no text, so the last text comes from the last setting that gives one
  have hFlags : (flags.filter (· ∈ settings)).filterMap text? = [] :=
    List.filterMap_eq_nil_iff.mpr fun flag hMem =>
      mem_flags_iff.mp (List.mem_of_mem_filter hMem)
  rw [lastText?_eq_bind settings]
  unfold lastText? merge
  rw [List.filterMap_append, hFlags, List.nil_append]
  cases (settings.filter (text? · |>.isSome)).getLast? with
  | none => rfl
  | some last => cases hText : text? last <;> simp [hText]

end Merge

end Setting

end Introspect
