import DigestGate.Proofs.Text.LowerCase
import DigestGate.Proofs.Text.Numeral
import DigestGate.Proofs.Text.Pieces
import DigestGate.Settings.Basic

namespace DigestGate

theorem Mode.named?_eq_some_iff {name : String} {mode : Mode} :
    Mode.named? name = some mode ↔ name = mode.name := by
  constructor
  · intro h
    unfold Mode.named? at h
    split at h <;> cases h <;> rfl
  · rintro rfl
    cases mode <;> rfl

theorem Mode.name_injective {mode mode' : Mode} (h : mode.name = mode'.name) : mode = mode' := by
  have hname := Mode.named?_eq_some_iff.2 h
  rw [Mode.named?_eq_some_iff.2 rfl] at hname
  exact Option.some.inj hname

theorem Mode.named?_eq_none_iff {name : String} :
    Mode.named? name = none ↔ ∀ mode : Mode, name ≠ mode.name := by
  rw [Option.eq_none_iff_forall_ne_some]
  exact forall_congr' fun _ => not_congr named?_eq_some_iff

/-- The value of a variable: the current one, the initial one or the default. -/
def Environment.said (env start : Environment) (name default : String) : String :=
  ((env.get? name).or (start.get? name)).getD default

theorem Environment.said_eq (env start : Environment) (name default : String) :
    env.said start name default = (env.get? name).getD (said [] start name default) :=
  Option.getD_or

namespace Settings

variable {start env : Environment} {defaults : Defaults} {settings : Settings} {e : SettingsError}
  {text : String} {n : Int}

structure Texts where
  mode : String
  maximum : String
  chunk : String
  methods : String

namespace Texts

def ofVariables (env start : Environment) : Texts where
  mode := env.said start "DIGEST_ENFORCE" "advisory"
  maximum := env.said start "BODY_MAX_BYTES" "1048576"
  chunk := env.said start "BODY_READ_CHUNK_BYTES" "4096"
  methods := env.said start "DIGEST_METHODS" "POST,PUT,PATCH"

/-- The settings read from the texts. -/
structure Give (t : Texts) (settings : Settings) : Prop where
  mode : Text.lowerCase t.mode = settings.mode.name
  maximum : integer t.maximum = .ok settings.maximum
  chunk : integer t.chunk = .ok settings.chunk
  methods : settings.methods = methodList t.methods

/-- The first text that cannot be read, and the error for it. -/
inductive Refuse (t : Texts) : SettingsError → Prop
  | mode (h : ∀ mode : Mode, Text.lowerCase t.mode ≠ mode.name) :
      t.Refuse (.unknownModeSetting (Text.lowerCase t.mode))
  | maximum {mode : Mode} {e : SettingsError} (hmode : Text.lowerCase t.mode = mode.name)
      (h : integer t.maximum = .error e) : t.Refuse e
  | chunk {mode : Mode} {n : Int} {e : SettingsError} (hmode : Text.lowerCase t.mode = mode.name)
      (hmaximum : integer t.maximum = .ok n) (h : integer t.chunk = .error e) : t.Refuse e

def Yield (t : Texts) : Except SettingsError Settings → Prop
  | .ok settings => t.Give settings
  | .error e => t.Refuse e

structure Start (t : Texts) (defaults : Defaults) : Prop where
  mode : defaults.mode = Text.lowerCase t.mode
  maximum : integer t.maximum = .ok defaults.maximum
  chunk : integer t.chunk = .ok defaults.chunk
  methods : defaults.methods = methodList t.methods

variable {t : Texts} {settings settings' : Settings} {e e' : SettingsError}
  {result result' : Except SettingsError Settings}

theorem Give.unique (h : t.Give settings) (h' : t.Give settings') : settings = settings' := by
  have hmode := Mode.name_injective (h.mode.symm.trans h'.mode)
  have hmaximum := Except.ok.inj (h.maximum.symm.trans h'.maximum)
  have hchunk := Except.ok.inj (h.chunk.symm.trans h'.chunk)
  have hmethods := h.methods.trans h'.methods.symm
  cases settings
  cases settings'
  cases hmode
  cases hmaximum
  cases hchunk
  cases hmethods
  rfl

theorem Give.not_refuse (h : t.Give settings) : ¬ t.Refuse e := by
  intro hrefuse
  cases hrefuse with
  | mode hmode => exact hmode settings.mode h.mode
  | maximum _ hmaximum => cases h.maximum.symm.trans hmaximum
  | chunk _ _ hchunk => cases h.chunk.symm.trans hchunk

theorem Refuse.unique (h : t.Refuse e) (h' : t.Refuse e') : e = e' := by
  cases h with
  | mode hname =>
    cases h' with
    | mode => rfl
    | maximum hmode => exact absurd hmode (hname _)
    | chunk hmode => exact absurd hmode (hname _)
  | maximum hmode hmaximum =>
    cases h' with
    | mode hname => exact absurd hmode (hname _)
    | maximum _ hmaximum' => exact Except.error.inj (hmaximum.symm.trans hmaximum')
    | chunk _ hmaximum' => cases hmaximum.symm.trans hmaximum'
  | chunk hmode hmaximum hchunk =>
    cases h' with
    | mode hname => exact absurd hmode (hname _)
    | maximum _ hmaximum' => cases hmaximum.symm.trans hmaximum'
    | chunk _ _ hchunk' => exact Except.error.inj (hchunk.symm.trans hchunk')

theorem Yield.unique (h : t.Yield result) (h' : t.Yield result') : result = result' := by
  cases result with
  | ok settings =>
    cases result' with
    | ok settings' => exact congrArg _ (h.unique h')
    | error e => exact absurd h' h.not_refuse
  | error e =>
    cases result' with
    | ok settings => exact absurd h h'.not_refuse
    | error e' => exact congrArg _ (h.unique h')

end Texts

theorem integer_eq_ok_iff : integer text = .ok n ↔ Text.integer? text.toList = .ok n := by
  rw [integer]
  cases Text.integer? text.toList with
  | ok m => exact ⟨fun h => congrArg _ (Except.ok.inj h), fun h => congrArg _ (Except.ok.inj h)⟩
  | error e =>
    cases e with
    | malformed => simp only [reduceCtorEq]
    | tooManyDigits count => simp only [reduceCtorEq]

theorem integerOr_of_integer (h : integer text = .ok n) (now : Option String) :
    integerOr n now = integer (now.getD text) := by
  cases now with
  | some text => rfl
  | none =>
    show integer (String.ofList (Text.decimal n)) = integer text
    rw [h, integer_eq_ok_iff, String.toList_ofList]
    exact Text.integer?_decimal (integer_eq_ok_iff.1 h)

theorem lowerCase_getD (text : String) (now : Option String) :
    Text.lowerCase (now.getD (Text.lowerCase text)) = Text.lowerCase (now.getD text) := by
  cases now with
  | some text => rfl
  | none => exact Text.lowerCase_lowerCase text

theorem start_of_load (h : Defaults.load start = .ok defaults) :
    (Texts.ofVariables [] start).Start defaults := by
  rw [Defaults.load] at h
  split at h
  · cases h
  · next hmaximum =>
    split at h
    · cases h
    · next hchunk =>
      cases h
      exact ⟨rfl, hmaximum, hchunk, rfl⟩

/-- Loading reads the current texts of the variables. -/
theorem load_yields (h : Defaults.load start = .ok defaults) (env : Environment) :
    (Texts.ofVariables env start).Yield (load defaults env) := by
  have hstart := start_of_load h
  have hmode : Text.lowerCase ((env.get? "DIGEST_ENFORCE").getD defaults.mode) =
      Text.lowerCase (Texts.ofVariables env start).mode := by
    rw [hstart.mode, lowerCase_getD]
    exact congrArg _ (env.said_eq start _ _).symm
  have hmaximum : integerOr defaults.maximum (env.get? "BODY_MAX_BYTES") =
      integer (Texts.ofVariables env start).maximum := by
    rw [integerOr_of_integer hstart.maximum]
    exact congrArg _ (env.said_eq start _ _).symm
  have hchunk : integerOr defaults.chunk (env.get? "BODY_READ_CHUNK_BYTES") =
      integer (Texts.ofVariables env start).chunk := by
    rw [integerOr_of_integer hstart.chunk]
    exact congrArg _ (env.said_eq start _ _).symm
  rw [load, hmode, hmaximum, hchunk]
  cases hname : Mode.named? (Text.lowerCase (Texts.ofVariables env start).mode) with
  | none => exact .mode (Mode.named?_eq_none_iff.1 hname)
  | some mode =>
    have hmode := Mode.named?_eq_some_iff.1 hname
    cases hmaximum : integer (Texts.ofVariables env start).maximum with
    | error e => exact .maximum hmode hmaximum
    | ok maximum =>
      cases hchunk : integer (Texts.ofVariables env start).chunk with
      | error e => exact .chunk hmode hmaximum hchunk
      | ok chunk =>
        refine ⟨hmode, hmaximum, hchunk, ?_⟩
        have hsaid := env.said_eq start "DIGEST_METHODS" "POST,PUT,PATCH"
        rw [Texts.ofVariables, hsaid]
        cases env.get? "DIGEST_METHODS" with
        | some text => rfl
        | none => exact hstart.methods

theorem load_eq_iff (h : Defaults.load start = .ok defaults) {env : Environment}
    {result : Except SettingsError Settings} :
    load defaults env = result ↔ (Texts.ofVariables env start).Yield result := by
  constructor
  · rintro rfl
    exact load_yields h env
  · intro hresult
    exact (load_yields h env).unique hresult

def Silent (env : Environment) : Prop :=
  ∀ name ∈ ["DIGEST_ENFORCE", "BODY_MAX_BYTES", "BODY_READ_CHUNK_BYTES", "DIGEST_METHODS"],
    env.get? name = none

theorem ofVariables_of_silent {now plain : Environment} (hnow : Silent now) (hplain : Silent plain)
    (env : Environment) : Texts.ofVariables now env = Texts.ofVariables env plain := by
  have hsaid (name default : String) (hnow : now.get? name = none)
      (hplain : plain.get? name = none) :
      now.said env name default = env.said plain name default := by
    rw [Environment.said, Environment.said, hnow, hplain, Option.none_or, Option.or_none]
  simp only [Silent, List.forall_mem_cons] at hnow hplain
  obtain ⟨hmode, hmaximum, hchunk, hmethods, -⟩ := hnow
  obtain ⟨hmode', hmaximum', hchunk', hmethods', -⟩ := hplain
  rw [Texts.ofVariables, Texts.ofVariables, hsaid _ _ hmode hmode', hsaid _ _ hmaximum hmaximum',
    hsaid _ _ hchunk hchunk', hsaid _ _ hmethods hmethods']

theorem exists_load_of_silent {plain : Environment} (h : Silent plain) :
    ∃ defaults, Defaults.load plain = .ok defaults := by
  simp only [Silent, List.forall_mem_cons] at h
  obtain ⟨-, hmaximum, hchunk, -⟩ := h
  have hmaximum' : integer "1048576" = .ok 1048576 := rfl
  have hchunk' : integer "4096" = .ok 4096 := rfl
  rw [Defaults.load, hmaximum, hchunk, Option.getD_none, Option.getD_none, hmaximum', hchunk']
  exact ⟨_, rfl⟩

/-- The mode is known, and the methods are trimmed and in upper case. -/
structure Proper (settings : Settings) : Prop where
  mode : settings.mode.name ∈ ["advisory", "enforce", "require"]
  methods : ∀ method ∈ settings.methods, method ≠ "" ∧ ∃ piece : List Char, piece ≠ [] ∧
    ',' ∉ piece ∧ Text.trim piece = piece ∧ method = String.ofList (Text.upper piece)

theorem Texts.Give.proper {t : Texts} (h : t.Give settings) : settings.Proper where
  mode := by
    cases settings.mode with
    | advisory => exact .head _
    | enforce => exact .tail _ (.head _)
    | require => exact .tail _ (.tail _ (.head _))
  methods := by
    intro method hmethod
    rw [h.methods, methodList] at hmethod
    obtain ⟨piece, hpiece, hmethod⟩ := List.mem_filterMap.1 hmethod
    obtain ⟨whole, hwhole, rfl⟩ := List.mem_map.1 hpiece
    split at hmethod
    · cases hmethod
    · next hne =>
      cases hmethod
      have hpiece : Text.trim whole ≠ [] := mt List.isEmpty_iff.2 hne
      constructor
      · intro hempty
        exact Text.upper_ne_nil hpiece (String.ofList_eq_empty_iff.1 hempty)
      · have hcomma : ',' ∉ Text.trim whole := fun hmem =>
          Text.not_mem_of_mem_pieces hwhole ((Text.mem_trim (by decide)).1 hmem)
        exact ⟨Text.trim whole, hpiece, hcomma, Text.trim_trim whole, rfl⟩

/-- Current values override initial ones and are parsed in the same way. -/
theorem load_overrides :
    (∀ (start env : Environment) (defaults : Defaults), Defaults.load start = .ok defaults →
        ∀ result, load defaults env = result ↔ (Texts.ofVariables env start).Yield result) ∧
      (∀ (start now plain : Environment) (defaults : Defaults),
        Defaults.load start = .ok defaults → Silent now → Silent plain →
        ∃ plainDefaults, Defaults.load plain = .ok plainDefaults ∧
          load defaults now = load plainDefaults start) ∧
      ∀ (start env : Environment) (defaults : Defaults) (settings : Settings),
        Defaults.load start = .ok defaults → load defaults env = .ok settings →
        settings.Proper := by
  refine ⟨fun start env defaults hstart result => load_eq_iff hstart, ?_, ?_⟩
  · intro start now plain defaults hstart hnow hplain
    obtain ⟨plainDefaults, hdefaults⟩ := exists_load_of_silent hplain
    refine ⟨plainDefaults, hdefaults, (load_eq_iff hstart).2 ?_⟩
    rw [ofVariables_of_silent hnow hplain]
    exact load_yields hdefaults start
  · intro start env defaults settings hstart hload
    have hgive := (load_eq_iff hstart).1 hload
    exact Texts.Give.proper hgive

theorem load_overrides_respelled :
    let start : Environment :=
      [("BODY_MAX_BYTES", " +1_0"), ("DIGEST_ENFORCE", "EnForce"), ("DIGEST_METHODS", "get, ,put")]
    let env : Environment := [("BODY_READ_CHUNK_BYTES", "-07"), ("DIGEST_METHODS", "")]
    let settings : Settings := ⟨10, -7, [], .enforce⟩
    ∃ defaults plainDefaults, Defaults.load start = .ok defaults ∧
      load defaults env = .ok settings ∧ settings.Proper ∧ Silent [] ∧
      Defaults.load [] = .ok plainDefaults ∧ load defaults [] = load plainDefaults start := by
  intro start env settings
  obtain ⟨hover, hsilent, hproper⟩ := load_overrides
  have hstart : Defaults.load start = .ok ⟨10, 4096, ["GET", "PUT"], "enforce", true⟩ := by decide
  have hgive : (Texts.ofVariables env start).Give settings :=
    ⟨by decide, by decide, by decide, by decide⟩
  have hload := (hover start env _ hstart (.ok settings)).2 hgive
  have hnone : Silent [] := fun _ _ => rfl
  obtain ⟨plainDefaults, hplain, hsame⟩ := hsilent start [] [] _ hstart hnone hnone
  exact ⟨_, plainDefaults, hstart, hload, hproper start env _ settings hstart hload, hnone, hplain,
    hsame⟩

end Settings

end DigestGate
