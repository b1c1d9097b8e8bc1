import Midn.Proto.Ngap.Ranges
import Midn.Proto.Reencode
import Midn.Proto.S1ap.Ranges

/-!
# What is decoded is in its range

Nothing compares a number that was read with the largest one of its range. It is in the range all
the same if the buffer spells such a number, and all ranges but those of choices, criticalities and
bit rates leave no other numeral to spell.
-/

namespace Midn

open Per Per.PerReader Container

/-- A number is read in its range exactly if it is spelled so, and from every buffer exactly if its
range uses up its bits. In what the decoders of both protocols produce, the choice, the
criticalities and the bit rates of a setup request are in their ranges exactly if they are spelled
so, and all other numbers are in any case. -/
theorem inRange_iff_spelled (data : List UInt8) (bitPos min max : Nat) :
    (min ≤ max → max < 2 ^ 64 → max - min + 1 < 2 ^ 64 →
      ((∀ v r', (readConstrainedInt min max).run ⟨data, bitPos⟩ = some (v, r') →
        min ≤ v ∧ v ≤ max) ↔ SpellsNumber min max ⟨data, bitPos⟩) ∧
      ((∀ r, SpellsNumber min max r) ↔ WholeCodeSpace (max - min + 1))) ∧
    (∀ choice procCode criticality value,
      decodePduWrapper data = some (choice, procCode, criticality, value) →
      ((choice ≤ 2 ∧ procCode.toNat ≤ procedureCodeMax ∧ criticality.toNat ≤ 2) ↔
        SpellsNumber 0 2 ⟨data, 0⟩ ∧ SpellsNumber 0 2 ⟨data, 10⟩)) ∧
    (∀ entries, parse readIeContainer data = some entries →
      ((∀ e ∈ entries, e.InRange) ↔ ElementsSpelled data)) ∧
    (∀ msg, Ngap.decodeNgapPdu data = .ok msg →
      (msg.NumbersInRange ↔ Ngap.AmbrSpelled data)) ∧
    ∀ msg, S1ap.decodeS1apPdu data = .ok msg →
      (msg.NumbersInRange ↔ S1ap.AmbrSpelled data) := by
  refine ⟨fun hle hmax hword => ⟨?_, ?_⟩, ?_, ?_, ?_, ?_⟩
  · exact readConstrainedInt_inRange_iff hword hle hmax ⟨data, bitPos⟩
  · exact forall_spellsNumber_iff hword
  · exact fun choice procCode criticality value => decodePduWrapper_inRange_iff
  · exact fun entries => readIeContainer_inRange_iff
  · exact fun msg => Ngap.numbersInRange_iff
  · exact fun msg => S1ap.numbersInRange_iff

/-- Two ones are read as 3 where the largest number is 2: by the reader itself, as a choice and as
the criticality of a PDU, and as the criticality of an element. Both protocols have a setup request
that is decoded with a bit rate above the largest one. -/
theorem decoded_out_of_range :
    (readConstrainedInt 0 2).run (.new [0xC0]) = some (3, ⟨[0xC0], 2⟩) ∧
    decodePduWrapper [0xC0, 0x30, 0] = some (3, 0, 3, []) ∧
    parse readIeContainer [1, 0, 0, 0xC0, 0] = some [⟨0, 3, []⟩] ∧
    (∃ msg, Ngap.decodeNgapPdu ngapSetupAboveMax = .ok msg ∧ ¬ msg.NumbersInRange) ∧
    ∃ msg, S1ap.decodeS1apPdu s1apSetupAboveMax = .ok msg ∧ ¬ msg.NumbersInRange := by
  have hngap : (Ngap.decodeNgapPdu ngapSetupAboveMax).toOption.map
      (fun msg => decide msg.NumbersInRange) = some false := by decide +kernel
  have hs1ap : (S1ap.decodeS1apPdu s1apSetupAboveMax).toOption.map
      (fun msg => decide msg.NumbersInRange) = some false := by decide +kernel
  refine ⟨rfl, by decide, by decide, ?_, ?_⟩
  · cases hdecode : Ngap.decodeNgapPdu ngapSetupAboveMax with
    | error e => simp [hdecode, Except.toOption] at hngap
    | ok msg => exact ⟨msg, rfl, by simpa [hdecode, Except.toOption] using hngap⟩
  · cases hdecode : S1ap.decodeS1apPdu s1apSetupAboveMax with
    | error e => simp [hdecode, Except.toOption] at hs1ap
    | ok msg => exact ⟨msg, rfl, by simpa [hdecode, Except.toOption] using hs1ap⟩

end Midn
