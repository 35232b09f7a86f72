/-
Pinned keys as `scripts/pinned_keys_diff.py` carries them from the registry's TOML to the
control plane's `CONTROL_PLANE_PINNED_KEYS`: the wire token of one entry, the value of a
list of entries and the parser of that value. The reading of the TOML files, the `json`
rendering and the command line are not modelled.

A bound is written here whatever its number of digits, and the parser takes `int` as a
parameter; `Keys.EnvRoundTrip` has both under the interpreter's limit.
-/

import AcdpPlayground.Foundation.PythonText
import Mathlib.Tactic.MkIffOfInductiveProp

namespace AcdpPlayground.Keys

open PythonText

structure PinnedEntry where
  agentDid : Text
  publicKeyB64 : Text
  algorithm : Text
  validFrom : Option Int
  validUntil : Option Int
  deriving DecidableEq

namespace PinnedEntry

def hasWindow (entry : PinnedEntry) : Bool :=
  entry.validFrom.isSome || entry.validUntil.isSome

def boundText (bound : Option Int) : Text :=
  (bound.map intText).getD []

def toEnvToken (entry : PinnedEntry) : Text :=
  let token := entry.agentDid ++ text "=" ++ entry.publicKeyB64
  let token :=
    if entry.algorithm ≠ text "ed25519" ∨ entry.hasWindow then
      token ++ text ":" ++ entry.algorithm
    else token
  if entry.hasWindow then
    token ++ text ":" ++ boundText entry.validFrom ++ text ".." ++ boundText entry.validUntil
  else token

end PinnedEntry

def toEnvValue (entries : List PinnedEntry) : Text :=
  (text ",").intercalate (entries.map PinnedEntry.toEnvToken)

/-! ### The parser -/

/-- `SystemExit` for a token without `=`, `ValueError` for a bound that is no integer. -/
inductive EnvError where
  | malformedToken (token : Text)
  | invalidBound (given : Text)
  deriving DecidableEq

section Parser

variable (toInt : Text → Option Int)

/-- `int(bound) if bound else None`. -/
def parseBound (given : Text) : Except EnvError (Option Int) :=
  if given = [] then .ok none
  else
    match toInt given with
    | some value => .ok (some value)
    | none => .error (.invalidBound given)

/-- One turn of the loop over the segments after the key. -/
def parseSegment (entry : PinnedEntry) (segment : Text) : Except EnvError PinnedEntry :=
  match cut (text "..") segment with
  | some (lo, hi) => do
      let validFrom ← parseBound toInt lo
      let validUntil ← parseBound toInt hi
      return { entry with validFrom := validFrom, validUntil := validUntil }
  | none => .ok (if segment = [] then entry else { entry with algorithm := segment })

def parseSegments (entry : PinnedEntry) : List Text → Except EnvError PinnedEntry
  | [] => .ok entry
  | segment :: rest => do
      let next ← parseSegment toInt entry segment
      parseSegments next rest

/-- A token that is not blank. -/
def parseToken (token : Text) : Except EnvError PinnedEntry :=
  match cut (text "=") token with
  | none => .error (.malformedToken token)
  | some (did, value) =>
      let segments := (strip value).splitOn 58
      parseSegments toInt
        { agentDid := strip did
          publicKeyB64 := segments.headD []
          algorithm := text "ed25519"
          validFrom := none
          validUntil := none } segments.tail

def parseTokens : List Text → Except EnvError (List PinnedEntry)
  | [] => .ok []
  | token :: rest =>
      if strip token = [] then parseTokens rest
      else do
        let entry ← parseToken toInt (strip token)
        let entries ← parseTokens rest
        return entry :: entries

def parseEnvValueWith (raw : Text) : Except EnvError (List PinnedEntry) :=
  parseTokens toInt (raw.splitOn 44)

end Parser

/-! ### The alphabet -/

def isBase64 (point : Nat) : Bool :=
  (65 ≤ point && point ≤ 90) || (97 ≤ point && point ≤ 122) || isAsciiDigit point ||
    point == 43 || point == 47 || point == 61

/-- Fields that neither the separators nor `strip` can cut. -/
@[mk_iff]
structure PinnedEntry.InAlphabet (entry : PinnedEntry) : Prop where
  did_nonempty : entry.agentDid ≠ []
  did_equals : 61 ∉ entry.agentDid
  did_comma : 44 ∉ entry.agentDid
  did_tight : tight entry.agentDid = true
  key_base64 : ∀ point ∈ entry.publicKeyB64, isBase64 point = true
  algorithm_nonempty : entry.algorithm ≠ []
  algorithm_colon : 58 ∉ entry.algorithm
  algorithm_comma : 44 ∉ entry.algorithm
  algorithm_dots : cut (text "..") entry.algorithm = none
  algorithm_tight : tight entry.algorithm = true

instance (entry : PinnedEntry) : Decidable entry.InAlphabet :=
  decidable_of_iff _ entry.inAlphabet_iff.symm

/-! ### Round trip -/

namespace PinnedEntry

def windowText (entry : PinnedEntry) : Text :=
  boundText entry.validFrom ++ text ".." ++ boundText entry.validUntil

/-- The segments of a token's value after the key. -/
def segments (entry : PinnedEntry) : List Text :=
  (if entry.algorithm ≠ text "ed25519" ∨ entry.hasWindow then [entry.algorithm] else []) ++
    (if entry.hasWindow then [entry.windowText] else [])

theorem toEnvToken_eq (entry : PinnedEntry) :
    entry.toEnvToken =
      entry.agentDid ++ 61 :: [58].intercalate (entry.publicKeyB64 :: entry.segments) := by
  unfold toEnvToken segments windowText
  by_cases named : entry.algorithm ≠ text "ed25519" ∨ entry.hasWindow = true
  · by_cases window : entry.hasWindow = true
    · simp only [if_pos named, if_pos window, List.singleton_append,
        List.intercalate_cons_cons, List.intercalate_singleton, List.append_assoc]
      rfl
    · simp only [if_pos named, if_neg window, List.append_nil, List.intercalate_cons_cons,
        List.intercalate_singleton, List.append_assoc]
      rfl
  · have plain : ¬entry.hasWindow = true := fun window => named (.inr window)
    simp only [if_neg named, if_neg plain, List.append_nil, List.intercalate_singleton,
      List.append_assoc]
    rfl

theorem mem_boundText {bound : Option Int} {point : Nat} (member : point ∈ boundText bound) :
    point = 45 ∨ isAsciiDigit point = true := by
  cases bound with
  | none => cases member
  | some value => exact mem_intText member

theorem not_mem_boundText {point : Nat} (bound : Option Int) (noMinus : point ≠ 45)
    (noDigit : isAsciiDigit point = false) : point ∉ boundText bound := by
  intro member
  rcases mem_boundText member with minus | digit
  · exact noMinus minus
  · rw [noDigit] at digit
    cases digit

theorem boundText_tight (bound : Option Int) : tight (boundText bound) = true := by
  cases bound with
  | none => rfl
  | some value => exact intText_tight value

theorem windowText_tight (entry : PinnedEntry) : tight entry.windowText = true := by
  have second : tight ([] ++ 46 :: boundText entry.validUntil) = true :=
    tight_join rfl (boundText_tight _) rfl
  have whole : tight (boundText entry.validFrom ++ 46 :: 46 :: boundText entry.validUntil) =
      true := tight_join (boundText_tight _) second rfl
  unfold windowText
  rw [List.append_assoc]
  exact whole

theorem not_mem_windowText {point : Nat} (entry : PinnedEntry) (noMinus : point ≠ 45)
    (noDigit : isAsciiDigit point = false) (noDot : point ≠ 46) :
    point ∉ entry.windowText := by
  intro member
  unfold windowText at member
  rcases List.mem_append.mp member with before | until_
  · rcases List.mem_append.mp before with from_ | dots
    · exact not_mem_boundText _ noMinus noDigit from_
    · change point ∈ [46, 46] at dots
      simp [noDot] at dots
  · exact not_mem_boundText _ noMinus noDigit until_

end PinnedEntry

/-- `int` gives the bounds back from their text. -/
def PinnedEntry.ReadBack (toInt : Text → Option Int) (entry : PinnedEntry) : Prop :=
  ∀ value, entry.validFrom = some value ∨ entry.validUntil = some value →
    toInt (intText value) = some value

variable {toInt : Text → Option Int}

theorem parseBound_boundText {bound : Option Int}
    (readBack : ∀ value, bound = some value → toInt (intText value) = some value) :
    parseBound toInt (PinnedEntry.boundText bound) = .ok bound := by
  cases bound with
  | none => rfl
  | some value =>
      unfold parseBound
      change (if intText value = [] then _ else _) = _
      rw [if_neg (intText_ne_nil value)]
      change (match toInt (intText value) with | some _ => _ | none => _) = _
      rw [readBack value rfl]

theorem parseSegment_window {entry : PinnedEntry} (readBack : entry.ReadBack toInt)
    (given : PinnedEntry) :
    parseSegment toInt given entry.windowText =
      .ok { given with validFrom := entry.validFrom, validUntil := entry.validUntil } := by
  have validFrom := parseBound_boundText (fun value isFrom => readBack value (.inl isFrom))
  have validUntil := parseBound_boundText (fun value isUntil => readBack value (.inr isUntil))
  have found : cut (text "..") entry.windowText =
      some (PinnedEntry.boundText entry.validFrom, PinnedEntry.boundText entry.validUntil) :=
    cut_of_head_absent 46 [46] _ (PinnedEntry.not_mem_boundText _ (by decide) (by decide))
  unfold parseSegment
  rw [found]
  simp only [validFrom, validUntil]
  rfl

theorem parseSegment_algorithm {entry : PinnedEntry} (alphabet : entry.InAlphabet)
    (given : PinnedEntry) :
    parseSegment toInt given entry.algorithm = .ok { given with algorithm := entry.algorithm } := by
  unfold parseSegment
  rw [alphabet.algorithm_dots]
  simp only [if_neg alphabet.algorithm_nonempty]

theorem parseSegments_segments {entry : PinnedEntry} (alphabet : entry.InAlphabet)
    (readBack : entry.ReadBack toInt) :
    parseSegments toInt
      { agentDid := entry.agentDid
        publicKeyB64 := entry.publicKeyB64
        algorithm := text "ed25519"
        validFrom := none
        validUntil := none } entry.segments = .ok entry := by
  obtain ⟨agentDid, publicKeyB64, algorithm, validFrom, validUntil⟩ := entry
  unfold PinnedEntry.segments
  by_cases named : algorithm ≠ text "ed25519" ∨ PinnedEntry.hasWindow
      ⟨agentDid, publicKeyB64, algorithm, validFrom, validUntil⟩ = true
  · by_cases window : PinnedEntry.hasWindow
        ⟨agentDid, publicKeyB64, algorithm, validFrom, validUntil⟩ = true
    · simp only [if_pos named, if_pos window, List.singleton_append, parseSegments,
        parseSegment_algorithm alphabet, parseSegment_window readBack]
      rfl
    · obtain ⟨rfl, rfl⟩ : validFrom = none ∧ validUntil = none := by
        simpa [PinnedEntry.hasWindow] using window
      simp only [if_pos named, if_neg window, List.append_nil, parseSegments,
        parseSegment_algorithm alphabet]
      rfl
  · obtain ⟨rfl, rfl, rfl⟩ :
        algorithm = text "ed25519" ∧ validFrom = none ∧ validUntil = none := by
      simpa [PinnedEntry.hasWindow] using named
    rfl

theorem not_mem_base64 {key : Text} {point : Nat} (noBase64 : isBase64 point = false)
    (base64 : ∀ other ∈ key, isBase64 other = true) : point ∉ key := by
  intro member
  have inside := base64 point member
  rw [noBase64] at inside
  cases inside

theorem isSpace_of_base64 {point : Nat} (base64 : isBase64 point = true) :
    isSpace point = false := by
  have bounded : ∀ point < 123, isBase64 point = true → isSpace point = false := by decide
  apply bounded point _ base64
  simp only [isBase64, isAsciiDigit, Bool.or_eq_true, Bool.and_eq_true, decide_eq_true_eq,
    beq_iff_eq] at base64
  omega

theorem parts_spec {entry : PinnedEntry} (alphabet : entry.InAlphabet) {part : Text}
    (member : part ∈ entry.publicKeyB64 :: entry.segments) :
    58 ∉ part ∧ 44 ∉ part ∧ tight part = true := by
  have keyPart : 58 ∉ entry.publicKeyB64 ∧ 44 ∉ entry.publicKeyB64 ∧
      tight entry.publicKeyB64 = true := by
    refine ⟨not_mem_base64 (by decide) alphabet.key_base64,
      not_mem_base64 (by decide) alphabet.key_base64, ?_⟩
    apply tight_of_forall
    intro point inside
    exact isSpace_of_base64 (alphabet.key_base64 point inside)
  have windowPart : 58 ∉ entry.windowText ∧ 44 ∉ entry.windowText ∧
      tight entry.windowText = true :=
    ⟨entry.not_mem_windowText (by decide) (by decide) (by decide),
      entry.not_mem_windowText (by decide) (by decide) (by decide), entry.windowText_tight⟩
  rcases List.mem_cons.mp member with key | later
  · rw [key]
    exact keyPart
  · unfold PinnedEntry.segments at later
    rcases List.mem_append.mp later with algorithm | window
    · split at algorithm
      · rw [List.mem_singleton.mp algorithm]
        exact ⟨alphabet.algorithm_colon, alphabet.algorithm_comma, alphabet.algorithm_tight⟩
      · cases algorithm
    · split at window
      · rw [List.mem_singleton.mp window]
        exact windowPart
      · cases window

theorem value_tight {entry : PinnedEntry} (alphabet : entry.InAlphabet) :
    tight ([58].intercalate (entry.publicKeyB64 :: entry.segments)) = true :=
  tight_intercalate rfl (fun _ member => (parts_spec alphabet member).2.2)

theorem toEnvToken_tight {entry : PinnedEntry} (alphabet : entry.InAlphabet) :
    tight entry.toEnvToken = true := by
  rw [entry.toEnvToken_eq]
  exact tight_join alphabet.did_tight (value_tight alphabet) rfl

theorem toEnvToken_comma {entry : PinnedEntry} (alphabet : entry.InAlphabet) :
    44 ∉ entry.toEnvToken := by
  rw [entry.toEnvToken_eq]
  intro member
  rcases List.mem_append.mp member with did | later
  · exact alphabet.did_comma did
  · rcases List.mem_cons.mp later with equals | value
    · cases equals
    · rcases mem_intercalate value with colon | ⟨part, inside, found⟩
      · cases colon
      · exact (parts_spec alphabet inside).2.1 found

theorem parseToken_toEnvToken {entry : PinnedEntry} (alphabet : entry.InAlphabet)
    (readBack : entry.ReadBack toInt) : parseToken toInt entry.toEnvToken = .ok entry := by
  have found : cut (text "=") entry.toEnvToken =
      some (entry.agentDid, [58].intercalate (entry.publicKeyB64 :: entry.segments)) := by
    rw [entry.toEnvToken_eq]
    have located := cut_of_head_absent 61 []
      ([58].intercalate (entry.publicKeyB64 :: entry.segments)) alphabet.did_equals
    rw [List.append_assoc] at located
    exact located
  have split : ([58].intercalate (entry.publicKeyB64 :: entry.segments)).splitOn 58 =
      entry.publicKeyB64 :: entry.segments :=
    List.splitOn_intercalate 58 (fun _ member => (parts_spec alphabet member).1)
      (List.cons_ne_nil _ _)
  unfold parseToken
  rw [found]
  simp only [strip_of_tight (value_tight alphabet), strip_of_tight alphabet.did_tight, split,
    List.headD_cons, List.tail_cons]
  exact parseSegments_segments alphabet readBack

theorem toEnvToken_ne_nil (entry : PinnedEntry) : entry.toEnvToken ≠ [] := by
  rw [entry.toEnvToken_eq]
  exact List.append_ne_nil_of_right_ne_nil _ (List.cons_ne_nil _ _)

theorem parseTokens_toEnvToken {entries : List PinnedEntry}
    (alphabet : ∀ entry ∈ entries, entry.InAlphabet)
    (readBack : ∀ entry ∈ entries, entry.ReadBack toInt) :
    parseTokens toInt (entries.map PinnedEntry.toEnvToken) = .ok entries := by
  induction entries with
  | nil => rfl
  | cons entry rest ih =>
      have here := alphabet entry List.mem_cons_self
      have later := ih (fun other member => alphabet other (List.mem_cons_of_mem _ member))
        (fun other member => readBack other (List.mem_cons_of_mem _ member))
      simp only [List.map_cons, parseTokens, strip_of_tight (toEnvToken_tight here),
        if_neg (toEnvToken_ne_nil entry),
        parseToken_toEnvToken here (readBack entry List.mem_cons_self), later]
      rfl

theorem parseEnvValueWith_toEnvValue {entries : List PinnedEntry}
    (alphabet : ∀ entry ∈ entries, entry.InAlphabet)
    (readBack : ∀ entry ∈ entries, entry.ReadBack toInt) :
    parseEnvValueWith toInt (toEnvValue entries) = .ok entries := by
  unfold parseEnvValueWith
  by_cases empty : entries = []
  · rw [empty]
    rfl
  · have split : (toEnvValue entries).splitOn 44 = entries.map PinnedEntry.toEnvToken := by
      apply List.splitOn_intercalate
      · intro token member
        obtain ⟨entry, present, rfl⟩ := List.mem_map.mp member
        exact toEnvToken_comma (alphabet entry present)
      · rw [ne_eq, List.map_eq_nil_iff]
        exact empty
    rw [split]
    exact parseTokens_toEnvToken alphabet readBack

end AcdpPlayground.Keys
