import ChatFeed.Event.Stamp
import ChatFeed.Numeral
import ChatFeed.Proofs.Id
import Mathlib.Data.List.Induction
import Mathlib.Data.List.TakeWhile
import Mathlib.Tactic.IntervalCases

/-!
# Stamps tell events apart

The number of a stamp can be read back from the identity made from it, whoever made the event,
so no two stamps of different numbers make the same identity.

## Main results

* `Stamp.ofDigits?_hexadecimal`: a hexadecimal number reads back
* `Stamp.number_eq_of_eventId_eq`: an identity has one number
* `Stamp.isProper_eventId`: an identity is read back if that of the sender is
-/

namespace ChatFeed

namespace Numeral

/-- What can be read as a number is made of digits. -/
theorem isSome_digit?_of_mem {base n : Nat} {cs : List Char} (read : ofDigits? base cs = some n)
    {c : Char} (mem : c ∈ cs) : (digit? c).isSome := by
  -- Only the last character of what has been read so far need be looked at.
  induction cs using List.reverseRecOn generalizing n with
  | nil => contradiction
  | append_singleton front last ih =>
    have last_read {value : Nat} (appended : append? base value last = some n) :
        (digit? last).isSome := by
      rw [append?] at appended
      cases found : digit? last with
      | none =>
        rw [found] at appended
        contradiction
      | some digit => rfl
    by_cases first : front = []
    · subst first
      rw [List.nil_append, ofDigits?_singleton] at read
      rw [List.nil_append, List.mem_singleton] at mem
      rw [mem]
      exact last_read read
    · rw [ofDigits?_concat base last first, Option.bind_eq_some_iff] at read
      obtain ⟨value, front_read, appended⟩ := read
      rcases List.mem_append.mp mem with earlier | same
      · exact ih front_read earlier
      · rw [List.mem_singleton.mp same]
        exact last_read appended

/-- Each of the sixteen digits reads back as its value. -/
theorem digit?_digitChar {d : Nat} (small : d < 16) : digit? d.digitChar = some d := by
  interval_cases d <;> rfl

theorem append?_digitChar {base d : Nat} (small : d < base) (few : base ≤ 16) (value : Nat) :
    append? base value d.digitChar = some (value * base + d) := by
  rw [append?, digit?_digitChar (Nat.lt_of_lt_of_le small few)]
  exact if_pos small

/-- The digits of a number read back as the number. -/
theorem ofDigits?_toDigits {base : Nat} (many : 1 < base) (few : base ≤ 16) (n : Nat) :
    ofDigits? base (Nat.toDigits base n) = some n := by
  -- The last digit is the remainder, and the digits before it are those of the quotient.
  induction n using Nat.strongRecOn with
  | ind n ih =>
    rw [Nat.toDigits_eq_if many]
    split
    next small => rw [ofDigits?_singleton, append?_digitChar small few, Nat.zero_mul, Nat.zero_add]
    next large =>
      have quotient := ih (n / base) (Nat.div_lt_self (by omega) many)
      have remainder : n % base < base := Nat.mod_lt n (by omega)
      rw [ofDigits?_concat base _ Nat.toDigits_ne_nil, quotient, Option.bind_some,
        append?_digitChar remainder few, Nat.div_add_mod' n base]

/-- Zeros in front make no difference. -/
theorem ofDigits?_replicate_zero_append (zeros : Nat) {cs : List Char} (some_digit : cs ≠ []) :
    ofDigits? 16 (List.replicate zeros '0' ++ cs) = ofDigits? 16 cs := by
  induction zeros with
  | zero => rfl
  | succ zeros ih =>
    rw [← ih]
    have digits_left : List.replicate zeros '0' ++ cs ≠ [] := by simp [some_digit]
    have zero : append? 16 0 '0' = some 0 := rfl
    simp [ofDigits?, List.replicate_succ, zero, some_digit]

end Numeral

namespace Stamp

/-- A hexadecimal number reads back. -/
theorem ofDigits?_hexadecimal (n : Nat) :
    Numeral.ofDigits? 16 (hexadecimal n).toList = some n := by
  rw [hexadecimal, String.toList_ofList,
    Numeral.ofDigits?_replicate_zero_append _ Nat.toDigits_ne_nil,
    Numeral.ofDigits?_toDigits (by decide) (by decide)]

theorem colon_notMem_hexadecimal (n : Nat) : ':' ∉ (hexadecimal n).toList := by
  intro mem
  have digit := Numeral.isSome_digit?_of_mem (ofDigits?_hexadecimal n) mem
  exact absurd digit (by decide)

theorem hexadecimal_ne_empty (n : Nat) : hexadecimal n ≠ "" := by
  intro empty
  have read := ofDigits?_hexadecimal n
  rw [empty] at read
  contradiction

theorem beforeColon_hexadecimal (n : Nat) :
    Id.beforeColon (hexadecimal n).toList = (hexadecimal n).toList :=
  List.takeWhile_eq_self_iff.mpr fun _ => Id.ne_colon_of_mem (colon_notMem_hexadecimal n)

/-- The number is what the identity names before its domain. -/
theorem localpart_eventId (stamp : Stamp) (sender : UserId) :
    (stamp.eventId sender).localpart = hexadecimal stamp.number.toNat := by
  apply String.toList_inj.mp
  rw [eventId, Id.ofParts, String.toList_ofList]
  exact beforeColon_hexadecimal _

/-- The identity is read back if that of the sender is. -/
theorem isProper_eventId (stamp : Stamp) {sender : UserId} (proper : sender.IsProper) :
    (stamp.eventId sender).IsProper := by
  rw [eventId]
  refine Id.isProper_ofParts ?_ (Id.isProper_iff.mp proper).2
  rw [beforeColon_hexadecimal]
  exact mt String.toList_eq_nil_iff.mp (hexadecimal_ne_empty _)

/-- Stamps that make the same identity, for whichever senders, have the same number. -/
theorem number_eq_of_eventId_eq {stamp stamp' : Stamp} {sender sender' : UserId}
    (same : stamp.eventId sender = stamp'.eventId sender') : stamp.number = stamp'.number := by
  have same_hexadecimal : hexadecimal stamp.number.toNat = hexadecimal stamp'.number.toNat := by
    rw [← localpart_eventId stamp sender, same, localpart_eventId]
  have read := ofDigits?_hexadecimal stamp.number.toNat
  rw [same_hexadecimal, ofDigits?_hexadecimal, Option.some.injEq] at read
  exact BitVec.eq_of_toNat_eq read.symm

end Stamp

end ChatFeed
