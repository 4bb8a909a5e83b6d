/-
Whom a broadcast has reached, as the web app lists them: webapp/src/lib/broadcastRecipients.ts. One
recipient is reported more than once and in any order, live and from the stored delivery events.
-/
import Mathlib

set_option autoImplicit false

namespace BrambleMesh.BroadcastRecipients

open List

/-- A report: its address, its time, and `status` and `hopCount` as one value. -/
structure Recipient (A T V : Type*) where
  addr : A
  deliveredAtMs : T
  fields : V
deriving DecidableEq

variable {A T V : Type*} [DecidableEq A] [LinearOrder T]

def Latest (reports : List (Recipient A T V)) (r : Recipient A T V) : Prop :=
  r ∈ reports ∧ ∀ s ∈ reports, s.addr = r.addr → s.deliveredAtMs ≤ r.deliveredAtMs

/-- Two latest reports of one recipient say the same. -/
def LatestAgree (reports : List (Recipient A T V)) : Prop :=
  ∀ r s, Latest reports r → Latest reports s → r.addr = s.addr → r = s

/-- The list has one entry for each recipient that was reported, its newest report. -/
structure Newest (reports out : List (Recipient A T V)) : Prop where
  one_each : (out.map (·.addr)).Nodup
  reported : ∀ r ∈ out, r ∈ reports
  covers : ∀ r ∈ reports, ∃ s ∈ out, s.addr = r.addr ∧ r.deliveredAtMs ≤ s.deliveredAtMs

variable {reports reports' out out' : List (Recipient A T V)} {r incoming : Recipient A T V}

/-! ## One report -/

omit [DecidableEq A] in
lemma Newest.latest (hout : Newest reports out) (hr : r ∈ out) : Latest reports r := by
  refine ⟨hout.reported r hr, fun s hs haddr => ?_⟩
  obtain ⟨q, hq, hqs, hle⟩ := hout.covers s hs
  rwa [inj_on_of_nodup_map hout.one_each hq hr (hqs.trans haddr)] at hle

omit [DecidableEq A] in
lemma Newest.subset (hout : Newest reports out) (h : LatestAgree reports)
    (hsame : ∀ r, r ∈ reports ↔ r ∈ reports') (hout' : Newest reports' out') :
    ∀ r ∈ out, r ∈ out' := by
  intro r hr
  obtain ⟨s, hs, hsr, -⟩ := hout'.covers r ((hsame r).1 (hout.reported r hr))
  have hlatest : Latest reports s := by
    simpa only [Latest, hsame] using hout'.latest hs
  rwa [h r s (hout.latest hr) hlatest hsr.symm]

end BrambleMesh.BroadcastRecipients
