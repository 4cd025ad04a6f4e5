import TrusteeBank.Secrets

/-!
# Passwords and what is stored of them

`hashPassword` stores four fields between dollar signs: the scheme, the cost, and salt and key in
hexadecimal. `verifyPassword` reads the fields back and derives the key again.

**Assumption (`PasswordHashes`).** scrypt derives 64 bytes from any password, and with one salt no
two of the passwords in question give the same ones.

**Theorem (`verifyPassword_stored`).** What is stored of one of these passwords is verified with
this password only.
-/

set_option autoImplicit false

namespace TrusteeBank

/-! ## Hexadecimal -/

theorem digitValue_hexDigit (n : Nat) : digitValue (hexDigit n) = some (n % 16) := by
  have hall : ∀ k < 16, digitValue (Nat.digitChar k) = some k := by decide
  exact hall (n % 16) (Nat.mod_lt n (by norm_num))

theorem dollar_ne_hexDigit (n : Nat) : '$' ≠ hexDigit n := by
  have hall : ∀ k < 16, '$' ≠ Nat.digitChar k := by decide
  exact hall (n % 16) (Nat.mod_lt n (by norm_num))

theorem hexBytes_hexText (bytes : List UInt8) : hexBytes (hexText bytes).toList = bytes := by
  have hdigit (n : Nat) : (digitValue (hexDigit n)).filter (fun v => decide (v < 16)) =
      some (n % 16) := by
    rw [digitValue_hexDigit]
    exact Option.filter_some_pos (decide_eq_true (Nat.mod_lt n (by norm_num)))
  unfold hexText
  rw [String.toList_ofList]
  induction bytes with
  | nil => rfl
  | cons b bytes ih =>
    have hbyte : b.toNat / 16 % 16 * 16 + b.toNat % 16 = b.toNat := by
      have := b.toNat_lt
      omega
    simp only [List.flatMap_cons, List.cons_append, List.nil_append, hexBytes, hdigit, ih, hbyte,
      UInt8.ofNat_toNat]

theorem dollar_notMem_hexText (bytes : List UInt8) : '$' ∉ (hexText bytes).toList := by
  unfold hexText
  rw [String.toList_ofList, List.mem_flatMap]
  rintro ⟨b, -, hb⟩
  rcases List.mem_cons.mp hb with hb | hb
  · exact dollar_ne_hexDigit _ hb
  · exact dollar_ne_hexDigit _ (List.mem_singleton.mp hb)

/-! ## The stored text -/

/-- The text `hashPassword` makes of a salt and a key. -/
def storedText (salt key : List UInt8) : String :=
  .join ["scrypt$16384$", hexText salt, "$", hexText key]

theorem splitOn_storedText (salt key : List UInt8) : (storedText salt key).toList.splitOn '$' =
    ["scrypt".toList, "16384".toList, (hexText salt).toList, (hexText key).toList] := by
  have htext : (storedText salt key).toList = "scrypt".toList ++ '$' :: ("16384".toList ++ '$' ::
      ((hexText salt).toList ++ '$' :: (hexText key).toList)) := by
    unfold storedText
    rw [String.toList_join]
    simp
  rw [htext, List.splitOn_append_cons_self, List.splitOn_append_cons_self,
    List.splitOn_append_cons_self, List.splitOn_eq_singleton (dollar_notMem_hexText salt),
    List.splitOn_eq_singleton (dollar_notMem_hexText key),
    List.splitOn_eq_singleton (by decide), List.splitOn_eq_singleton (by decide)]
  rfl

theorem storedText_ne_empty (salt key : List UInt8) : storedText salt key ≠ "" := by
  intro h
  have hfields := splitOn_storedText salt key
  rw [h] at hfields
  exact absurd hfields (by simp)

variable [HashRuntime]

/-- **Passwords that can be told apart by their keys.** -/
structure PasswordHashes (passwords : List String) : Prop where
  derives : ∀ password salt, ∃ key,
    HashRuntime.scryptSync password salt 64 "16384" = .ok key ∧ key.length = 64
  apart : ∀ p ∈ passwords, ∀ q ∈ passwords, ∀ salt,
    HashRuntime.scryptSync p salt 64 "16384" = HashRuntime.scryptSync q salt 64 "16384" → p = q

/-- The text is stored of the password. -/
def StoredFrom (password stored : String) : Prop :=
  ∃ salt, hashPassword password salt = .ok stored

theorem hashPassword_eq_ok {password stored : String} {salt : List UInt8} :
    hashPassword password salt = .ok stored ↔
      ∃ key, HashRuntime.scryptSync password salt 64 "16384" = .ok key ∧
        stored = storedText salt key := by
  unfold hashPassword
  cases HashRuntime.scryptSync password salt 64 "16384" with
  | error e => simp [bind, Except.bind]
  | ok key => simp [bind, Except.bind, pure, Except.pure, storedText, eq_comm]

theorem PasswordHashes.hashes {passwords : List String} (h : PasswordHashes passwords)
    (password : String) (salt : List UInt8) :
    ∃ stored, hashPassword password salt = .ok stored ∧ StoredFrom password stored := by
  obtain ⟨key, hkey, -⟩ := h.derives password salt
  have hstored := hashPassword_eq_ok.mpr ⟨key, hkey, rfl⟩
  exact ⟨_, hstored, salt, hstored⟩

theorem StoredFrom.ne_empty {password stored : String} (h : StoredFrom password stored) :
    stored ≠ "" := by
  obtain ⟨salt, h⟩ := h
  obtain ⟨key, -, rfl⟩ := hashPassword_eq_ok.mp h
  exact storedText_ne_empty salt key

/-- **Verification.** What is stored of a password is verified with this password, and with none
of the others. -/
theorem verifyPassword_stored {passwords : List String} (h : PasswordHashes passwords)
    {p q stored : String} (hp : p ∈ passwords) (hq : q ∈ passwords)
    (hstored : StoredFrom p stored) : verifyPassword q stored = .ok (decide (q = p)) := by
  obtain ⟨salt, hstored⟩ := hstored
  obtain ⟨key, hkey, rfl⟩ := hashPassword_eq_ok.mp hstored
  obtain ⟨actual, hactual, -⟩ := h.derives q salt
  have hlength : key.length = 64 := by
    obtain ⟨key', hkey', hlength⟩ := h.derives p salt
    rwa [Except.ok.inj (hkey.symm.trans hkey')]
  have hiff : actual = key ↔ q = p := by
    constructor
    · rintro rfl
      exact h.apart q hq p hp salt (hactual.trans hkey.symm)
    · rintro rfl
      exact Except.ok.inj (hactual.symm.trans hkey)
  unfold verifyPassword
  rw [splitOn_storedText]
  simp only [String.ofList_toList, ne_eq, not_true_eq_false, if_false, hexBytes_hexText, hlength,
    hactual]
  simp only [bind, Except.bind, pure, Except.pure, hiff]

end TrusteeBank
