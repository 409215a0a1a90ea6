import RansomShield.Guarantees.CommandLine

/-!
# Numbers on the command line

`--set-threshold` and `--unblock` convert their arguments with `_wtoi`, cast the result to `ULONG`
and refuse zero only.  `_wtoi` stops at the first character that is no digit, obeys a sign and cuts
a large number to the range of `int`, and the cast turns a negative number into a large one.  The
conversion of an argument is exact on the numerals of this range, and nowhere else
(`isNumeralOf_ulongArgument_iff`).  So an argument means what it says (`ThresholdMeant`,
`UnblockMeant`) if and only if it is the numeral of a number of this range, or a zero, which is
refused (`numeric_arguments_iff`).  A threshold of `-5` and a process `12abc` are obeyed
(`malformed_arguments`).
-/

namespace RansomShield

/-! ### Numerals -/

/-- The value of digits to the base 10. -/
def decimalValue (digits : List UInt16) : ℕ :=
  digits.foldl (fun n c => 10 * n + (c.toNat - 48)) 0

/-- The string is a decimal numeral of the number. -/
def IsNumeralOf (string : List UInt16) (n : ℕ) : Prop :=
  string ≠ [] ∧ (∀ c ∈ string, 48 ≤ c ∧ c ≤ 57) ∧ decimalValue string = n

instance (string : List UInt16) (n : ℕ) : Decidable (IsNumeralOf string n) :=
  inferInstanceAs (Decidable (_ ∧ _ ∧ _))

/-- Whether there is a minus sign behind the blanks, and what follows the sign. -/
def splitSign (string : List UInt16) : Bool × List UInt16 :=
  match string.dropWhile fun c => c = 32 ∨ c = 9 with
  | [] => (false, [])
  | c :: rest => if c = 45 then (true, rest) else (false, if c = 43 then rest else c :: rest)

/-- The number that the digits behind the blanks and the sign form. -/
def argumentValue (string : List UInt16) : ℕ :=
  decimalValue ((splitSign string).2.takeWhile fun c => 48 ≤ c ∧ c ≤ 57)

theorem wtoi_eq (string : List UInt16) :
    wtoi string =
      if (splitSign string).1 then Int32.ofInt (max (-(argumentValue string : ℤ)) (-2147483648))
      else Int32.ofInt (min (argumentValue string : ℤ) 2147483647) := rfl

theorem toNat_toUInt32_ofInt (i : ℤ) : (Int32.ofInt i).toUInt32.toNat = (i % 2 ^ 32).toNat := by
  change (BitVec.ofInt 32 i).toNat = _
  exact BitVec.toNat_ofInt i

/-- **The number that an argument is converted to.** -/
theorem toNat_ulongArgument (argument : Argument) :
    (ulongArgument argument).toNat =
      if (splitSign argument.1.chars).1
      then (2 ^ 32 - min (argumentValue argument.1.chars) (2 ^ 31)) % 2 ^ 32
      else min (argumentValue argument.1.chars) (2 ^ 31 - 1) := by
  rw [ulongArgument, wtoi_eq]
  split_ifs with hnegative
  · rw [toNat_toUInt32_ofInt]
    omega
  · rw [toNat_toUInt32_ofInt]
    omega

theorem ulongArgument_eq_zero_iff (argument : Argument) :
    ulongArgument argument = 0 ↔ argumentValue argument.1.chars = 0 := by
  rw [← UInt32.toNat_inj, toNat_ulongArgument]
  change _ = 0 ↔ _
  split_ifs with hnegative
  · omega
  · omega

namespace IsNumeralOf

variable {string : List UInt16} {n : ℕ}

theorem splitSign (h : IsNumeralOf string n) : RansomShield.splitSign string = (false, string) := by
  obtain ⟨hne, hdigits, -⟩ := h
  cases string with
  | nil => exact absurd rfl hne
  | cons c rest =>
    have hlow : (48 : UInt16) ≤ c := (hdigits c (List.mem_cons_self ..)).1
    have hother : ∀ d : UInt16, d < 48 → c ≠ d := by
      rintro d hd rfl
      exact absurd hlow (UInt16.not_le.2 hd)
    have hblank : ¬ (c = 32 ∨ c = 9) := by
      rintro (hc | hc)
      · exact hother 32 (by decide) hc
      · exact hother 9 (by decide) hc
    unfold RansomShield.splitSign
    rw [List.dropWhile_cons_of_neg (by simpa using hblank)]
    dsimp only
    rw [if_neg (hother 45 (by decide)), if_neg (hother 43 (by decide))]

theorem argumentValue (h : IsNumeralOf string n) : RansomShield.argumentValue string = n := by
  rw [RansomShield.argumentValue, h.splitSign, List.takeWhile_eq_self_iff.2]
  · exact h.2.2
  · intro c hc
    exact decide_eq_true (h.2.1 c hc)

end IsNumeralOf

/-- A numeral of a number that an `int` holds. -/
def IsIntNumeral (string : List UInt16) : Prop := ∃ n ≤ 2147483647, IsNumeralOf string n

/-- **The conversion is exact** on the numerals of the range of `int`, and on no other argument. -/
theorem isNumeralOf_ulongArgument_iff (argument : Argument) :
    IsNumeralOf argument.1.chars (ulongArgument argument).toNat ↔
      IsIntNumeral argument.1.chars := by
  constructor
  · intro h
    refine ⟨_, ?_, h⟩
    rw [toNat_ulongArgument, h.splitSign]
    exact min_le_right _ _
  · rintro ⟨n, hn, h⟩
    have hconverted : (ulongArgument argument).toNat = n := by
      rw [toNat_ulongArgument, h.splitSign, h.argumentValue]
      exact min_eq_left hn
    rw [hconverted]
    exact h

/-! ### The thresholds -/

variable (env : CliEnvironment) (s : CliState)

/-- `CmdSetThreshold` stores nothing, or the numbers in `[1, 2 ^ 32 - 1]` whose numerals its
arguments are. -/
def ThresholdMeant (count secs : Argument) (arguments : List Argument) : Prop :=
  s.cmdSetThreshold env (count :: secs :: arguments) = (s, 1) ∨
    ∃ fileCount seconds, IsNumeralOf count.1.chars fileCount ∧
      IsNumeralOf secs.1.chars seconds ∧
      fileCount ∈ Set.Icc 1 (2 ^ 32 - 1) ∧ seconds ∈ Set.Icc 1 (2 ^ 32 - 1) ∧
      (s.cmdSetThreshold env (count :: secs :: arguments)).1.config.fileCountThreshold.toNat =
        fileCount ∧
      (s.cmdSetThreshold env (count :: secs :: arguments)).1.config.timeWindowSeconds.toNat =
        seconds

theorem CliState.pushIfConnected_config : (s.pushIfConnected env).config = s.config := by
  unfold pushIfConnected push
  split_ifs <;> rfl

variable {env s} in
theorem cmdSetThreshold_of_ne_zero {count secs : Argument} (arguments : List Argument)
    (hzero : ¬ (ulongArgument count = 0 ∨ ulongArgument secs = 0)) :
    (s.cmdSetThreshold env (count :: secs :: arguments)).2 = 0 ∧
      (s.cmdSetThreshold env (count :: secs :: arguments)).1.config =
        { s.config with
          fileCountThreshold := ulongArgument count
          timeWindowSeconds := ulongArgument secs } := by
  rw [CliState.cmdSetThreshold]
  dsimp only
  rw [if_neg hzero]
  exact ⟨rfl, CliState.pushIfConnected_config ..⟩

variable {env s} in
theorem thresholdMeant_iff (count secs : Argument) (arguments : List Argument) :
    ThresholdMeant env s count secs arguments ↔
      argumentValue count.1.chars = 0 ∨ argumentValue secs.1.chars = 0 ∨
        (IsIntNumeral count.1.chars ∧ IsIntNumeral secs.1.chars) := by
  rw [← ulongArgument_eq_zero_iff, ← ulongArgument_eq_zero_iff, ← or_assoc]
  by_cases hzero : ulongArgument count = 0 ∨ ulongArgument secs = 0
  · refine iff_of_true (Or.inl ?_) (Or.inl hzero)
    rw [CliState.cmdSetThreshold]
    exact if_pos hzero
  · obtain ⟨hcode, hconfig⟩ := @cmdSetThreshold_of_ne_zero env s count secs arguments hzero
    have hcount := fun h => hzero (Or.inl (UInt32.toNat_inj.1 h))
    have hsecs := fun h => hzero (Or.inr (UInt32.toNat_inj.1 h))
    have hltCount := (ulongArgument count).toNat_lt
    have hltSecs := (ulongArgument secs).toNat_lt
    rw [ThresholdMeant, hconfig, or_iff_right hzero, ← isNumeralOf_ulongArgument_iff,
      ← isNumeralOf_ulongArgument_iff]
    constructor
    · rintro (h | ⟨fileCount, seconds, hcountNumeral, hsecsNumeral, -, -, rfl, rfl⟩)
      · rw [h] at hcode
        cases hcode
      · exact ⟨hcountNumeral, hsecsNumeral⟩
    · rintro ⟨hcountNumeral, hsecsNumeral⟩
      exact Or.inr ⟨_, _, hcountNumeral, hsecsNumeral,
        ⟨Nat.pos_of_ne_zero hcount, by omega⟩, ⟨Nat.pos_of_ne_zero hsecs, by omega⟩, rfl, rfl⟩

/-! ### The process to unblock -/

/-- The request `RS_REQUEST_UNBLOCK_PID`. -/
def unblockRequest (sequenceNumber pid : UInt32) : List UInt8 :=
  makeHeader sequenceNumber .requestUnblockPid sizeofRequestUnblockPid ++ ulongBytes pid

theorem unblockRequest_inj {sequenceNumber pid pid' : UInt32}
    (h : unblockRequest sequenceNumber pid = unblockRequest sequenceNumber pid') : pid = pid' := by
  have hbytes := List.append_cancel_left h
  have hread := readUlong_ulongBytes [] pid []
  rwa [hbytes, readUlong_ulongBytes, eq_comm] at hread

/-- The session in which `CmdUnblock` sends: it connects if there is no connection. -/
def unblockSession : Session :=
  if s.session.connected then s.session else (s.session.connect env.port).1

/-- The requests that `CmdUnblock` gives to `FilterSendMessage`. -/
def unblockRequests (pid : UInt32) : List (List UInt8) :=
  if pid ≠ 0 ∧ (unblockSession env s).connected then [unblockRequest (env.numbers 0) pid] else []

/-- There is a connection, or `CmdUnblock` gets one. -/
def Connects : Prop :=
  s.session.connected = true ∨ (∃ port, env.port = .ok port) ∧ s.session.driver.isSome = true

variable {env s} in
theorem connected_unblockSession_iff :
    (unblockSession env s).connected = true ↔ Connects env s := by
  unfold unblockSession Connects Session.connect
  cases hconnected : s.session.connected with
  | true => simp [hconnected]
  | false =>
    cases hport : env.port with
    | error hr => simp [hconnected]
    | ok port => cases hdriver : s.session.driver <;> simp [hconnected]

/-- The session behind these requests. -/
def sessionAfterUnblock (pid : UInt32) : Session :=
  (unblockRequests env s pid).foldl
    (fun c bytes => (c.send env.deliveries (bytes, sizeofReplyUnblockPid)).1)
    (if pid = 0 then s.session else unblockSession env s)

/-- **The requests are what `CmdUnblock` sends**: it leaves the session in which it sends as these
requests leave it. -/
theorem cmdUnblock_session (pid : UInt32) :
    (s.cmdUnblock env pid).1.session = sessionAfterUnblock env s pid := by
  rw [CliState.cmdUnblock, sessionAfterUnblock, unblockRequests]
  by_cases hpid : pid = 0
  · rw [if_pos hpid, if_pos hpid, if_neg fun h => h.1 hpid]
    rfl
  rw [if_neg hpid, if_neg hpid, CliState.withConnection]
  cases hconnected : s.session.connected with
  | true =>
    have hsession : unblockSession env s = s.session := if_pos hconnected
    rw [if_pos rfl, hsession, if_pos ⟨hpid, hconnected⟩]
    rfl
  | false =>
    have hsession : unblockSession env s = (s.session.connect env.port).1 :=
      if_neg (ne_true_of_eq_false hconnected)
    rw [if_neg Bool.false_ne_true, hsession, CliState.connect]
    have hfailed := s.session.failed_connect env.port hconnected
    cases hopen : (s.session.connect env.port).1.connected with
    | true =>
      rw [hopen] at hfailed
      rw [if_pos ⟨hpid, rfl⟩]
      simp only [hfailed, Bool.not_true, Bool.false_eq_true, if_false]
      rfl
    | false =>
      rw [hopen] at hfailed
      rw [if_neg fun h => Bool.false_ne_true h.2]
      simp only [hfailed, Bool.not_false, if_true]
      rfl

/-- `CmdUnblock` asks for a process only if the argument is the numeral of its id. -/
def UnblockMeant (argument : Argument) : Prop :=
  ∀ pid : UInt32, unblockRequest (env.numbers 0) pid ∈
    unblockRequests env s (ulongArgument argument) → IsNumeralOf argument.1.chars pid.toNat

variable {env s} in
theorem unblockMeant_iff (argument : Argument) :
    UnblockMeant env s argument ↔
      argumentValue argument.1.chars = 0 ∨ ¬ Connects env s ∨ IsIntNumeral argument.1.chars := by
  rw [← ulongArgument_eq_zero_iff, ← connected_unblockSession_iff,
    ← isNumeralOf_ulongArgument_iff]
  by_cases hsends : ulongArgument argument ≠ 0 ∧ (unblockSession env s).connected = true
  · rw [UnblockMeant, unblockRequests, if_pos hsends, or_iff_right hsends.1,
      or_iff_right (not_not_intro hsends.2)]
    constructor
    · intro h
      exact h _ (List.mem_singleton_self _)
    · intro h pid hpid
      rw [unblockRequest_inj (List.mem_singleton.1 hpid)]
      exact h
  · rw [UnblockMeant, unblockRequests, if_neg hsends]
    refine iff_of_true (fun pid hpid => absurd hpid (List.not_mem_nil)) ?_
    by_cases hzero : ulongArgument argument = 0
    · exact Or.inl hzero
    · exact Or.inr (Or.inl fun hconnected => hsends ⟨hzero, hconnected⟩)

/-! ### When the arguments mean what they say -/

/-- **When numeric arguments mean what they say.**  For every environment, every state of the
process and all arguments: `--set-threshold` stores only the numbers whose numerals its arguments
are if and only if the digits of one argument form a zero, which is refused, or both arguments are
numerals of the range of `int`; and `--unblock` leaves the session as its requests leave it, and
asks only for the process whose numeral its argument is if and only if the digits form a zero, or
there is no connection to the driver, or the argument is a numeral of the range of `int`. -/
theorem numeric_arguments_iff (env : CliEnvironment) (s : CliState) :
    (∀ count secs arguments, ThresholdMeant env s count secs arguments ↔
      argumentValue count.1.chars = 0 ∨ argumentValue secs.1.chars = 0 ∨
        (IsIntNumeral count.1.chars ∧ IsIntNumeral secs.1.chars)) ∧
    (∀ lower argument arguments,
      (s.runCommand env lower (some .unblock) (argument :: arguments)).1.session =
        sessionAfterUnblock env s (ulongArgument argument)) ∧
    ∀ argument, UnblockMeant env s argument ↔
      argumentValue argument.1.chars = 0 ∨ ¬ Connects env s ∨
        IsIntNumeral argument.1.chars :=
  ⟨thresholdMeant_iff, fun _ argument _ => cmdUnblock_session env s (ulongArgument argument),
    unblockMeant_iff⟩

/-- An argument with a sign. -/
def minusFiveArgument : Argument := ⟨⟨wide "-5", by decide⟩, by decide⟩

/-- An argument that an `int` cannot hold. -/
def largeArgument : Argument := ⟨⟨wide "3000000000", by decide⟩, by decide⟩

/-- An argument with other characters behind its digits. -/
def lettersArgument : Argument := ⟨⟨wide "12abc", by decide⟩, by decide⟩

theorem not_isIntNumeral_of_mem {string : List UInt16} {c : UInt16} (hc : c ∈ string)
    (hdigit : ¬ (48 ≤ c ∧ c ≤ 57)) : ¬ IsIntNumeral string :=
  fun ⟨_, _, hnumeral⟩ => hdigit (hnumeral.2.1 c hc)

theorem not_isIntNumeral_largeArgument : ¬ IsIntNumeral largeArgument.1.chars := by
  rintro ⟨n, hn, -, -, rfl⟩
  exact absurd hn (by decide)

/-- **Malformed arguments are obeyed.**  A threshold of `-5` files in `5` seconds is stored as
4294967291 files, a threshold of `3000000000` is cut to the range of `int`, and `--unblock 12abc`
asks the driver to unblock the process 12. -/
theorem malformed_arguments :
    ∃ s : CliState,
      ¬ ThresholdMeant quietEnvironment s minusFiveArgument fiveArgument [] ∧
      (s.cmdSetThreshold quietEnvironment
        [minusFiveArgument, fiveArgument]).1.config.fileCountThreshold = 4294967291 ∧
      ¬ ThresholdMeant quietEnvironment s largeArgument fiveArgument [] ∧
      ¬ UnblockMeant quietEnvironment s lettersArgument ∧
      unblockRequests quietEnvironment s (ulongArgument lettersArgument) =
        [unblockRequest 0 12] := by
  refine ⟨⟨firstStart [] (Nat.zero_le _), ⟨false, some DriverState.init, 0⟩, emptyRegistry⟩,
    ?_, ?_, ?_, ?_, ?_⟩
  · rw [thresholdMeant_iff]
    rintro (h | h | h)
    · exact absurd h (by decide)
    · exact absurd h (by decide)
    · have hminus : 45 ∈ minusFiveArgument.1.chars := by decide
      exact not_isIntNumeral_of_mem hminus (by decide) h.1
  · have hzero : ¬ (ulongArgument minusFiveArgument = 0 ∨ ulongArgument fiveArgument = 0) := by
      decide
    rw [(cmdSetThreshold_of_ne_zero [] hzero).2]
    decide
  · rw [thresholdMeant_iff]
    rintro (h | h | h)
    · exact absurd h (by decide)
    · exact absurd h (by decide)
    · exact not_isIntNumeral_largeArgument h.1
  · rw [unblockMeant_iff]
    rintro (h | h | h)
    · exact absurd h (by decide)
    · exact h (Or.inr ⟨⟨0, rfl⟩, rfl⟩)
    · have hletter : 97 ∈ lettersArgument.1.chars := by decide
      exact not_isIntNumeral_of_mem hletter (by decide) h
  · have hpid : ulongArgument lettersArgument = 12 := by decide
    rw [hpid, unblockRequests, if_pos]
    · rfl
    · exact ⟨by decide, connected_unblockSession_iff.2 (Or.inr ⟨⟨0, rfl⟩, rfl⟩)⟩

end RansomShield
