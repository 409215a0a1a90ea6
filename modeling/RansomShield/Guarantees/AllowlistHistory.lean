import RansomShield.Client.Requests
import Mathlib.Data.List.DropRight

/-!
# The dynamic allowlist after a history of messages

Whatever allowlist messages the driver has accepted since it was loaded, its dynamic allowlist is
determined by the entries that came in since the list was cleared last (`received`): they are cut to
names, the empty ones are skipped, and the first 128 of the others are kept, in order of arrival
(`stored`).  How the entries were split between messages does not matter.

`holds_history` is about the slots and the counter, and `allowlist_history` about the list and the
reply to `RsQueryAllowlist`, too.
-/

namespace RansomShield

/-- The raw entries that came in since the list was cleared last. -/
def received (messages : List AllowlistMessage) : List AllowlistEntry :=
  (messages.rtakeWhile fun m => !m.isClear).flatMap AllowlistMessage.entries

/-- The names that are kept of the entries: the first 128 of the non-empty ones. -/
def stored (entries : List AllowlistEntry) : List (List UInt16) :=
  ((entries.map cut).filter (· ≠ [])).take rsMaxAllowlistEntries

/-- The driver after a history of messages. -/
def afterMessages (messages : List AllowlistMessage) : DriverState :=
  exec AllowlistMessage.handle DriverState.init messages

theorem received_concat (messages : List AllowlistMessage) (m : AllowlistMessage) :
    received (messages ++ [m]) = if m.isClear then [] else received messages ++ m.entries := by
  unfold received
  cases hm : m.isClear with
  | true => rw [List.rtakeWhile_concat_neg _ _ _ (by simp [hm]), if_pos rfl, List.flatMap_nil]
  | false =>
    rw [List.rtakeWhile_concat_pos _ _ _ (by simp [hm]), List.flatMap_append]
    simp

theorem exec_changeNames (messages : List AllowlistMessage) :
    exec AllowlistMessage.changeNames [] messages = stored (received messages) := by
  induction messages using List.reverseRecOn with
  | nil => rfl
  | append_singleton messages m ih =>
    rw [exec_concat, ih, received_concat, AllowlistMessage.changeNames]
    cases m.isClear with
    | true => rfl
    | false => simp only [Bool.false_eq_true, if_false, stored, foldl_addName, List.map_append]

/-- **The slots and the counter after a history.** -/
theorem holds_history (messages : List AllowlistMessage) :
    (afterMessages messages).Holds (stored (received messages)) := by
  rw [← exec_changeNames]
  exact AllowlistMessage.holds_exec holds_init messages

/-- The slot is NUL-terminated, and behind the terminator there are zeros only. -/
def Terminated (slot : AllowlistEntry) : Prop :=
  ∃ n, (∀ j, j < n → slot j ≠ 0) ∧ ∀ j, n ≤ j → slot j = 0

theorem terminated_padded {name : List UInt16} (h : IsName name) : Terminated (padded name) := by
  have hlen : name.length ≤ 259 := h.1
  refine ⟨⟨name.length, by show name.length < 260; omega⟩, ?_, ?_⟩
  · intro j hj
    rw [padded, List.getD_eq_getElem _ _ hj]
    exact fun hzero => h.2 (hzero ▸ List.getElem_mem hj)
  · intro j hj
    exact List.getD_eq_default _ _ hj

/-- **The dynamic allowlist after a history of accepted messages**: it consists of the names that
are kept of the entries received since the last clear, every slot is terminated and padded with
zeros, and `RsQueryAllowlist` returns the list with its length. -/
theorem allowlist_history (messages : List AllowlistMessage) :
    dynamicNames (afterMessages messages) = stored (received messages) ∧
    (∀ i, Terminated ((afterMessages messages).dynamicAllowlist i)) ∧
    ∀ query length, IsRequest query .queryAllowlist → sizeofReplyAllowlist ≤ length →
      ∃ header count,
        (rsMessageNotifyCallback (afterMessages messages) (some query) (some length)).status =
          .success ∧
        (rsMessageNotifyCallback (afterMessages messages) (some query) (some length)).reply =
          some (.allowlist header count ((stored (received messages)).map padded)) ∧
        count.toNat = (stored (received messages)).length := by
  have hholds := holds_history messages
  refine ⟨hholds.dynamicNames, ?_, ?_⟩
  · intro i
    rw [hholds.slots]
    by_cases hi : i.val < (stored (received messages)).length
    · rw [List.getD_eq_getElem _ _ hi]
      exact terminated_padded (hholds.isName _ (List.getElem_mem hi))
    · rw [List.getD_eq_default _ _ (not_lt.1 hi)]
      exact terminated_padded isName_nil
  · intro query length hquery hlength
    rw [hquery.eq_requestCase, requestCase, queryAllowlist, withOutputBuffer_of_le hlength,
      hholds.copiedEntries]
    exact ⟨_, _, rfl, rfl, hholds.count⟩

end RansomShield
