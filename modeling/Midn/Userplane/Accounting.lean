import Mathlib.Data.UInt
import Midn.Lib.Ledger
import Midn.Userplane.BearerUpdate

/-!
# Accounting

The user plane counts the bytes of a session in its record and hands the record out, for billing,
when the session is removed. Over every run of a session manager the bytes that were counted are
those of the sessions that are left, those of the records handed out, and those of sessions that a
creation has overwritten, which nobody is billed for. The metrics over all sessions are totals of
the same ledger. Counters of bytes wrap, and so do their totals.
-/

namespace Midn.Userplane

open GtpXdp

namespace SessionManager

variable {τ υ : Type}

/-- All TEIDs. -/
local instance : Fintype UInt32 := .ofEquiv (Fin (2 ^ 32))
  ⟨UInt32.ofFin, UInt32.toFin, fun _ => rfl, fun _ => rfl⟩

def activeSessionCount (manager : SessionManager τ υ) : Nat :=
  Ledger.total (fun s => if s.active then 1 else 0) manager.sessions

def totalBytesUplink (manager : SessionManager τ υ) : UInt64 :=
  Ledger.total UserPlaneSession.bytesUl manager.sessions

def totalBytesDownlink (manager : SessionManager τ υ) : UInt64 :=
  Ledger.total UserPlaneSession.bytesDl manager.sessions

/-- Act on the sessions; a removal hands out the record of the session. -/
def bill (K : RouteMaps τ υ) (manager : SessionManager τ υ) (a : Act τ υ) :
    SessionManager τ υ × Option UserPlaneSession :=
  ((manager.act K a).1,
    match a with
    | .call (.ofCore (.removeSession ulTeid)) => (manager.removeSession K ulTeid).1
    | _ => none)

abbrev Billed (τ υ : Type) :=
  Mealy.Transition (SessionManager τ υ) (Act τ υ) (Option UserPlaneSession)

namespace Billed

/-- The session whose TEID a creation takes over, record and all. -/
def overwritten (t : Billed τ υ) : Option UserPlaneSession :=
  match t.input with
  | .call (.createSession ..) => t.pre.sessions t.pre.allocUlTeid.1
  | .call (.ofCore (.createSessionWithTeid ulTeid ..)) => t.pre.sessions ulTeid
  | _ => none

/-- The bytes that the act counts, none if there is no session to count them for. -/
def accountedUplink (t : Billed τ υ) : UInt64 :=
  match t.input with
  | .accountUplink ulTeid bytes => if (t.pre.sessions ulTeid).isSome then bytes else 0
  | _ => 0

def accountedDownlink (t : Billed τ υ) : UInt64 :=
  match t.input with
  | .accountDownlink ulTeid bytes => if (t.pre.sessions ulTeid).isSome then bytes else 0
  | _ => 0

def created (t : Billed τ υ) : Nat :=
  match t.input with
  | .call (.createSession ..) | .call (.ofCore (.createSessionWithTeid ..)) => 1
  | _ => 0

end Billed

/-! ## Meters -/

/-- Something to read off a session that a creation opens, that accounting moves, and that nothing
else touches. -/
structure Meter (M : Type) [AddCancelCommMonoid M] where
  reading : UserPlaneSession → M
  opening : M
  uplink : UInt64 → M
  downlink : UInt64 → M
  reading_opened : ∀ entityId imsi ulTeid dlTeid ueIp enbAddr,
    reading ⟨entityId, imsi, ulTeid, dlTeid, ueIp, enbAddr, true, 0, 0⟩ = opening
  reading_bearer : ∀ s dlTeid enbAddr,
    reading { s with dlTeid := dlTeid, enbAddr := enbAddr } = reading s
  reading_uplink : ∀ s bytes,
    reading { s with bytesUl := s.bytesUl + bytes } = reading s + uplink bytes
  reading_downlink : ∀ s bytes,
    reading { s with bytesDl := s.bytesDl + bytes } = reading s + downlink bytes

namespace Meter

def ofBytesUl : Meter UInt64 where
  reading := UserPlaneSession.bytesUl
  opening := 0
  uplink := id
  downlink := fun _ => 0
  reading_opened _ _ _ _ _ _ := rfl
  reading_bearer _ _ _ := rfl
  reading_uplink _ _ := rfl
  reading_downlink _ _ := (add_zero _).symm

def ofBytesDl : Meter UInt64 where
  reading := UserPlaneSession.bytesDl
  opening := 0
  uplink := fun _ => 0
  downlink := id
  reading_opened _ _ _ _ _ _ := rfl
  reading_bearer _ _ _ := rfl
  reading_uplink _ _ := (add_zero _).symm
  reading_downlink _ _ := rfl

/-- One for each session. -/
def ofSessions : Meter Nat where
  reading := fun _ => 1
  opening := 1
  uplink := fun _ => 0
  downlink := fun _ => 0
  reading_opened _ _ _ _ _ _ := rfl
  reading_bearer _ _ _ := rfl
  reading_uplink _ _ := rfl
  reading_downlink _ _ := rfl

/-- One for each session that is not active. -/
def ofInactive : Meter Nat where
  reading := fun s => if s.active then 0 else 1
  opening := 0
  uplink := fun _ => 0
  downlink := fun _ => 0
  reading_opened _ _ _ _ _ _ := rfl
  reading_bearer _ _ _ := rfl
  reading_uplink _ _ := rfl
  reading_downlink _ _ := rfl

variable {M : Type} [AddCancelCommMonoid M] (m : Meter M)

/-- What an act adds to the meter. -/
def gained (t : Billed τ υ) : M :=
  match t.input with
  | .call (.createSession ..) | .call (.ofCore (.createSessionWithTeid ..)) => m.opening
  | .accountUplink ulTeid bytes => if (t.pre.sessions ulTeid).isSome then m.uplink bytes else 0
  | .accountDownlink ulTeid bytes =>
      if (t.pre.sessions ulTeid).isSome then m.downlink bytes else 0
  | _ => 0

/-- What leaves with a record that is handed out, or with one that is overwritten. -/
def gone (t : Billed τ υ) : M :=
  Ledger.weigh m.reading t.output + Ledger.weigh m.reading t.overwritten

theorem gained_ofBytesUl :
    (ofBytesUl.gained : Billed τ υ → UInt64) = Billed.accountedUplink := by
  funext ⟨pre, a, post, output⟩
  cases a with
  | call c =>
      cases c with
      | ofCore op => cases op <;> rfl
      | _ => rfl
  | accountUplink => rfl
  | accountDownlink => exact ite_self 0

theorem gained_ofBytesDl :
    (ofBytesDl.gained : Billed τ υ → UInt64) = Billed.accountedDownlink := by
  funext ⟨pre, a, post, output⟩
  cases a with
  | call c =>
      cases c with
      | ofCore op => cases op <;> rfl
      | _ => rfl
  | accountUplink => exact ite_self 0
  | accountDownlink => rfl

theorem gained_ofSessions : (ofSessions.gained : Billed τ υ → Nat) = Billed.created := by
  funext ⟨pre, a, post, output⟩
  cases a with
  | call c =>
      cases c with
      | ofCore op => cases op <;> rfl
      | _ => rfl
  | accountUplink | accountDownlink => exact ite_self 0

/-- A bearer update leaves the reading of the session alone. -/
theorem weigh_bearer (entry : Option UserPlaneSession) (dlTeid : UInt32) (enbAddr : Octets 4) :
    Ledger.weigh m.reading
        (entry.map fun s => { s with dlTeid := dlTeid, enbAddr := enbAddr }) =
      Ledger.weigh m.reading entry := by
  cases entry with
  | none => rfl
  | some s => exact m.reading_bearer s dlTeid enbAddr

/-- Accounting adds its bytes to the reading of the session, if there is one. -/
theorem weigh_account (gain : M) (entry : Option UserPlaneSession)
    (account : UserPlaneSession → UserPlaneSession)
    (haccount : ∀ s, m.reading (account s) = m.reading s + gain) :
    Ledger.weigh m.reading (entry.map account) =
      Ledger.weigh m.reading entry + if entry.isSome then gain else 0 := by
  cases entry with
  | none => exact (add_zero _).symm
  | some s => exact haccount s

end Meter

/-! ## One act -/

theorem allocUlTeid_sessions (manager : SessionManager τ υ) :
    manager.allocUlTeid.2.sessions = manager.sessions := by
  cases hfree : manager.freeUlTeids with
  | nil => exact (allocUlTeid_of_nil hfree).2.2
  | cons ulTeid free => rw [allocUlTeid_of_cons hfree]

section Act

variable {M : Type} [AddCancelCommMonoid M] (m : Meter M) (K : RouteMaps τ υ)
  (manager : SessionManager τ υ)

/-- A new session takes the place of the one that had its TEID. -/
theorem total_install (ulTeid entityId : UInt32) (imsi : UInt64) (ueIp : Octets 4)
    (dlTeid : UInt32) (enbAddr : Octets 4) (qci : UInt8) :
    Ledger.total m.reading
          (manager.install ulTeid entityId imsi ueIp dlTeid enbAddr qci).sessions +
        Ledger.weigh m.reading (manager.sessions ulTeid) =
      Ledger.total m.reading manager.sessions + m.opening := by
  rw [← m.reading_opened entityId imsi ulTeid dlTeid ueIp enbAddr]
  exact Ledger.total_update m.reading manager.sessions ulTeid _

/-- A bearer update moves no meter. -/
theorem total_updateBearerInfo (ulTeid dlTeid : UInt32) (enbAddr : Octets 4) :
    Ledger.total m.reading (manager.updateBearerInfo K ulTeid dlTeid enbAddr).2.sessions =
      Ledger.total m.reading manager.sessions := by
  cases hcurrent : manager.routing.ulMap ulTeid with
  | none => rw [updateBearerInfo_of_none hcurrent]
  | some current =>
      rw [updateBearerInfo_of_some hcurrent]
      apply add_right_cancel (b := Ledger.weigh m.reading (manager.sessions ulTeid))
      rw [Ledger.total_update, m.weigh_bearer]

theorem total_updateDlTeid (ulTeid dlTeid : UInt32) :
    Ledger.total m.reading (manager.updateDlTeid K ulTeid dlTeid).2.sessions =
      Ledger.total m.reading manager.sessions := by
  have hcases : (∃ enbAddr, manager.updateDlTeid K ulTeid dlTeid =
      manager.updateBearerInfo K ulTeid dlTeid enbAddr) ∨
      manager.updateDlTeid K ulTeid dlTeid = (false, manager) := updateDlTeid_eq ulTeid dlTeid
  rcases hcases with ⟨enbAddr, hsame⟩ | hnothing
  · rw [hsame, total_updateBearerInfo]
  · rw [hnothing]

/-- Accounting moves the meter by its bytes, if there is a session. -/
theorem total_account (ulTeid : UInt32) (account : UserPlaneSession → UserPlaneSession) (gain : M)
    (haccount : ∀ s, m.reading (account s) = m.reading s + gain) :
    Ledger.total m.reading
        (Function.update manager.sessions ulTeid ((manager.sessions ulTeid).map account)) =
      Ledger.total m.reading manager.sessions +
        if (manager.sessions ulTeid).isSome then gain else 0 := by
  apply add_right_cancel (b := Ledger.weigh m.reading (manager.sessions ulTeid))
  rw [Ledger.total_update, m.weigh_account gain _ account haccount, ← add_assoc, add_right_comm]

/-- An act moves the meter by what it gains less what leaves. -/
theorem total_bill (a : Act τ υ) :
    Ledger.total m.reading (manager.bill K a).1.sessions +
        m.gone (Mealy.transition (bill K) manager a) =
      Ledger.total m.reading manager.sessions +
        m.gained (Mealy.transition (bill K) manager a) := by
  have hnothing : Ledger.weigh m.reading none = 0 := rfl
  cases a with
  | call c =>
      cases c with
      | createSession entityId imsi ueIp dlTeid enbAddr qci =>
          have hinstall := total_install m manager.allocUlTeid.2 manager.allocUlTeid.1 entityId imsi
            ueIp dlTeid enbAddr qci
          rw [allocUlTeid_sessions] at hinstall
          simp only [Meter.gone, Meter.gained, Mealy.transition, Billed.overwritten, bill, act,
            hnothing, zero_add]
          exact hinstall
      | setBpfHandle bpf =>
          simp only [Meter.gone, Meter.gained, Mealy.transition, Billed.overwritten, bill, act,
            call, setBpfHandle, hnothing, zero_add]
      | ofCore op =>
          cases op with
          | createSessionWithTeid ulTeid entityId imsi ueIp enbAddr qci =>
              simp only [Meter.gone, Meter.gained, Mealy.transition, Billed.overwritten, bill, act,
                hnothing, zero_add]
              exact total_install m manager ulTeid entityId imsi ueIp 0 enbAddr qci
          | updateBearerInfo ulTeid dlTeid enbAddr =>
              simp only [Meter.gone, Meter.gained, Mealy.transition, Billed.overwritten, bill, act,
                call, apply, hnothing, add_zero]
              exact total_updateBearerInfo m K manager ulTeid dlTeid enbAddr
          | updateDlTeid ulTeid dlTeid =>
              simp only [Meter.gone, Meter.gained, Mealy.transition, Billed.overwritten, bill, act,
                call, apply, hnothing, add_zero]
              exact total_updateDlTeid m K manager ulTeid dlTeid
          | removeSession ulTeid =>
              simp only [Meter.gone, Meter.gained, Mealy.transition, Billed.overwritten, bill, act,
                call, apply, removeSession, hnothing, add_zero]
              rw [Ledger.total_update, hnothing, add_zero]
  | accountUplink ulTeid bytes =>
      simp only [Meter.gone, Meter.gained, Mealy.transition, Billed.overwritten, bill, act,
        accountUplink, hnothing, add_zero]
      exact total_account m manager ulTeid _ _ fun s => m.reading_uplink s bytes
  | accountDownlink ulTeid bytes =>
      simp only [Meter.gone, Meter.gained, Mealy.transition, Billed.overwritten, bill, act,
        accountDownlink, hnothing, add_zero]
      exact total_account m manager ulTeid _ _ fun s => m.reading_downlink s bytes

end Act

/-! ## Runs of acts -/

/-- Over a run from a manager without sessions, what a meter has gained is what it reads of the
sessions that are left and what has left with the others. -/
theorem total_after {M : Type} [AddCancelCommMonoid M] (m : Meter M) (K : RouteMaps τ υ)
    (acts : List (Act τ υ)) :
    Ledger.total m.reading (Mealy.after (bill K) new acts).sessions +
        ((Mealy.run (bill K) new acts).map m.gone).sum =
      ((Mealy.run (bill K) new acts).map m.gained).sum := by
  have hrun := Ledger.sum_run (fun manager : SessionManager τ υ =>
    Ledger.total m.reading manager.sessions) m.gained m.gone
    (fun manager a => total_bill m K manager a) new acts
  have hnew : Ledger.total m.reading (new : SessionManager τ υ).sessions = 0 :=
    Ledger.total_empty m.reading
  exact hrun.trans (by rw [hnew, zero_add])

/-- Nothing ever counts as inactive, so no session is. -/
theorem active_after (K : RouteMaps τ υ) (acts : List (Act τ υ)) {ulTeid : UInt32}
    {s : UserPlaneSession} (hsession : (Mealy.after (bill K) new acts).sessions ulTeid = some s) :
    s.active = true := by
  have hgained : ((Mealy.run (bill K) new acts).map Meter.ofInactive.gained).sum = 0 := by
    apply List.sum_eq_zero
    intro gain hgain
    obtain ⟨t, _, rfl⟩ := List.mem_map.mp hgain
    simp only [Meter.gained, Meter.ofInactive, ite_self]
    split <;> rfl
  have hbalance := total_after Meter.ofInactive K acts
  rw [hgained] at hbalance
  have hzero := Ledger.eq_zero_of_total (Nat.eq_zero_of_add_eq_zero_right hbalance) hsession
  cases hactive : s.active with
  | true => rfl
  | false =>
      simp only [Meter.ofInactive, hactive] at hzero
      cases hzero

/-- The bytes that were counted are those of the sessions that are left, those of the records
handed out, and those of overwritten sessions; and as many sessions are active as were created and
neither removed nor overwritten. -/
theorem accounts_balance (K : RouteMaps τ υ) (acts : List (Act τ υ)) :
    (Mealy.after (bill K) new acts).totalBytesUplink +
          ((Mealy.run (bill K) new acts).map Meter.ofBytesUl.gone).sum =
        ((Mealy.run (bill K) new acts).map Billed.accountedUplink).sum ∧
      (Mealy.after (bill K) new acts).totalBytesDownlink +
          ((Mealy.run (bill K) new acts).map Meter.ofBytesDl.gone).sum =
        ((Mealy.run (bill K) new acts).map Billed.accountedDownlink).sum ∧
      (Mealy.after (bill K) new acts).activeSessionCount +
          ((Mealy.run (bill K) new acts).map Meter.ofSessions.gone).sum =
        ((Mealy.run (bill K) new acts).map Billed.created).sum := by
  refine ⟨?_, ?_, ?_⟩
  · rw [← Meter.gained_ofBytesUl]
    exact total_after Meter.ofBytesUl K acts
  · rw [← Meter.gained_ofBytesDl]
    exact total_after Meter.ofBytesDl K acts
  · have hcount : (Mealy.after (bill K) new acts).activeSessionCount =
        Ledger.total Meter.ofSessions.reading (Mealy.after (bill K) new acts).sessions := by
      apply Ledger.total_congr
      intro ulTeid s hsession
      rw [active_after K acts hsession, if_pos rfl]
      rfl
    rw [hcount, ← Meter.gained_ofSessions]
    exact total_after Meter.ofSessions K acts

end SessionManager

end Midn.Userplane
