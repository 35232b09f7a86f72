/-
The base64 of JSON web tokens: the URL-safe alphabet, and no padding. The decoder of the
standard library wants the padding back, as many characters as are missing to a multiple of
four.
-/

import AcdpPlayground.Foundation.TextEncoding

namespace AcdpPlayground.Base64Url

open PythonText TextEncoding

def base64UrlChar (value : Nat) : Nat :=
  if value < 26 then 65 + value
  else if value < 52 then 71 + value
  else if value < 62 then value - 4
  else if value = 62 then 45
  else 95

/-- `base64.urlsafe_b64encode(raw).decode().rstrip("=")`. -/
def base64Url : Bytes → Text
  | [] => []
  | [first] => [base64UrlChar (first / 4), base64UrlChar (first % 4 * 16)]
  | [first, second] =>
      [base64UrlChar (first / 4), base64UrlChar (first % 4 * 16 + second / 16),
        base64UrlChar (second % 16 * 4)]
  | first :: second :: third :: rest =>
      base64UrlChar (first / 4) :: base64UrlChar (first % 4 * 16 + second / 16) ::
        base64UrlChar (second % 16 * 4 + third / 64) :: base64UrlChar (third % 64) ::
          base64Url rest

/-- `"=" * (-len(payload) % 4)`. -/
def paddingFor (payload : Text) : Text :=
  List.replicate ((4 - payload.length % 4) % 4) 61

/-! ### Characters -/

/-- The character of the standard alphabet with the same value. -/
def standardChar (point : Nat) : Nat :=
  if point = 45 then 43 else if point = 95 then 47 else point

theorem base64Value_char : ∀ value < 64,
    base64Value (standardChar (base64UrlChar value)) = some value := by
  decide

theorem base64UrlChar_plain : ∀ value < 64,
    base64UrlChar value < 128 ∧ base64UrlChar value ≠ 46 ∧
      standardChar (base64UrlChar value) ≠ 61 := by
  decide

theorem mem_base64Url {raw : Bytes} (bytes : ∀ byte ∈ raw, byte < 256) {point : Nat}
    (member : point ∈ base64Url raw) : ∃ value < 64, point = base64UrlChar value := by
  induction raw using base64Url.induct with
  | case1 => cases member
  | case2 first =>
      have small := bytes first List.mem_cons_self
      simp only [base64Url, List.mem_cons, List.not_mem_nil, or_false] at member
      rcases member with rfl | rfl <;> exact ⟨_, by omega, rfl⟩
  | case3 first second =>
      have small := bytes first List.mem_cons_self
      have next := bytes second (List.mem_cons_of_mem _ List.mem_cons_self)
      simp only [base64Url, List.mem_cons, List.not_mem_nil, or_false] at member
      rcases member with rfl | rfl | rfl <;> exact ⟨_, by omega, rfl⟩
  | case4 first second third rest ih =>
      simp only [List.forall_mem_cons] at bytes
      obtain ⟨small, next, last, others⟩ := bytes
      simp only [base64Url, List.mem_cons] at member
      rcases member with rfl | rfl | rfl | rfl | later
      · exact ⟨_, by omega, rfl⟩
      · exact ⟨_, by omega, rfl⟩
      · exact ⟨_, by omega, rfl⟩
      · exact ⟨_, by omega, rfl⟩
      · exact ih others later

/-! ### Round trip -/

/-- One character of the alphabet, at each place of its group. -/
theorem a2bBase64_char {value : Nat} (small : value < 64) (left : Nat) (rest : Bytes) :
    a2bBase64 0 left 0 (standardChar (base64UrlChar value) :: rest) =
        a2bBase64 1 value 0 rest ∧
      a2bBase64 1 left 0 (standardChar (base64UrlChar value) :: rest) =
        (a2bBase64 2 (value % 16) 0 rest).map ((left * 4 + value / 16) :: ·) ∧
      a2bBase64 2 left 0 (standardChar (base64UrlChar value) :: rest) =
        (a2bBase64 3 (value % 4) 0 rest).map ((left * 16 + value / 4) :: ·) ∧
      a2bBase64 3 left 0 (standardChar (base64UrlChar value) :: rest) =
        (a2bBase64 0 0 0 rest).map ((left * 64 + value) :: ·) := by
  have noPad := (base64UrlChar_plain value small).2.2
  have read := base64Value_char value small
  refine ⟨?_, ?_, ?_, ?_⟩ <;> simp only [a2bBase64, if_neg noPad, read]

theorem a2bBase64_base64Url {raw : Bytes} (bytes : ∀ byte ∈ raw, byte < 256) :
    a2bBase64 0 0 0 ((base64Url raw).map standardChar ++ paddingFor (base64Url raw)) =
      some raw := by
  induction raw using base64Url.induct with
  | case1 => rfl
  | case2 first =>
      have small := bytes first List.mem_cons_self
      have pads : paddingFor (base64Url [first]) = [61, 61] := rfl
      rw [pads]
      simp (disch := omega) only [base64Url, List.map_cons, List.map_nil, List.cons_append,
        List.nil_append, a2bBase64_char]
      have joined : first / 4 * 4 + first % 4 * 16 / 16 = first := by omega
      rw [joined]
      rfl
  | case3 first second =>
      have small := bytes first List.mem_cons_self
      have next := bytes second (List.mem_cons_of_mem _ List.mem_cons_self)
      have pads : paddingFor (base64Url [first, second]) = [61] := rfl
      rw [pads]
      simp (disch := omega) only [base64Url, List.map_cons, List.map_nil, List.cons_append,
        List.nil_append, a2bBase64_char]
      have joined : first / 4 * 4 + (first % 4 * 16 + second / 16) / 16 = first := by omega
      have behind : (first % 4 * 16 + second / 16) % 16 * 16 + second % 16 * 4 / 4 = second := by
        omega
      rw [joined, behind]
      rfl
  | case4 first second third rest ih =>
      simp only [List.forall_mem_cons] at bytes
      obtain ⟨small, next, last, others⟩ := bytes
      have pads : paddingFor (base64Url (first :: second :: third :: rest)) =
          paddingFor (base64Url rest) := by
        simp only [paddingFor, base64Url, List.length_cons]
        congr 2
        omega
      rw [pads]
      simp (disch := omega) only [base64Url, List.map_cons, List.cons_append, a2bBase64_char]
      rw [ih others]
      have joined : first / 4 * 4 + (first % 4 * 16 + second / 16) / 16 = first := by omega
      have behind : (first % 4 * 16 + second / 16) % 16 * 16 +
          (second % 16 * 4 + third / 64) / 4 = second := by omega
      have ending : (second % 16 * 4 + third / 64) % 4 * 64 + third % 64 = third := by omega
      rw [joined, behind, ending]
      rfl

theorem urlsafeB64decode_base64Url {raw : Bytes} (bytes : ∀ byte ∈ raw, byte < 256) :
    urlsafeB64decode (base64Url raw ++ paddingFor (base64Url raw)) = some raw := by
  have ascii : isAscii (base64Url raw ++ paddingFor (base64Url raw)) = true := by
    unfold isAscii
    rw [List.all_eq_true]
    intro point member
    rw [decide_eq_true_eq]
    rcases List.mem_append.mp member with payload | padding
    · obtain ⟨value, small, rfl⟩ := mem_base64Url bytes payload
      exact (base64UrlChar_plain value small).1
    · rw [List.eq_of_mem_replicate padding]
      decide
  have same : (paddingFor (base64Url raw)).map standardChar = paddingFor (base64Url raw) :=
    List.map_replicate
  unfold urlsafeB64decode
  rw [if_pos ascii]
  change a2bBase64 0 0 0 ((base64Url raw ++ paddingFor (base64Url raw)).map standardChar) = _
  rw [List.map_append, same]
  exact a2bBase64_base64Url bytes

theorem dot_not_mem_base64Url {raw : Bytes} (bytes : ∀ byte ∈ raw, byte < 256) :
    46 ∉ base64Url raw := by
  intro dot
  obtain ⟨value, small, same⟩ := mem_base64Url bytes dot
  exact (base64UrlChar_plain value small).2.1 same.symm

end AcdpPlayground.Base64Url
