import PlatformLauncher.Proofs.Bootstrap.KeptHome
import PlatformLauncher.Proofs.Bootstrap.World

/-!
What comes of the packages that are installed one after another, by an installer that only answers.
Requests, outcomes and output follow the list of the packages step by step, and what is asked for a
package has nothing to do with what came of the others. Main statement: `installs_each_once`.
-/
namespace PlatformLauncher

open Bootstrap

/-- The same collaborators with an installer that only answers, on the ground of all that was done
before. -/
def Bootstrap.Collaborators.installing (deps : Collaborators)
    (f : History → Install.Request → Except Failure Unit) : Collaborators :=
  { deps with install := fun h t r => .quiet (f h r) t }

namespace Install

def Outcome.account (o : Outcome) : List Text :=
  announcement o.package o.source ::
    match o.status with
    | .installed => []
    | .failed reason => [warning o.package reason]

def printed (outcomes : List Outcome) : Text :=
  outcomes.flatMap fun o => o.account.flatMap (· ++ ['\n'])

section Packages

variable (deps : Collaborators) (f : History → Request → Except Failure Unit) (here : Location)
  (cwd : Path) (t : Tree)

def requestFor (p : PackageEntry) : Request := .plain p.name (resolve t here p cwd)

def askedFor (packages : List PackageEntry) (h : History) : History :=
  (packages.map fun p => .askedInstaller (requestFor here cwd t p)).reverse ++ h

def outcomeFor (h : History) (p : PackageEntry) : Outcome :=
  ⟨p.name, resolve t here p cwd, Errand.statusOf (f h (requestFor here cwd t p))⟩

def outcomesFor : History → List PackageEntry → List Outcome
  | _, [] => []
  | h, p :: rest =>
    outcomeFor f here cwd t h p :: outcomesFor (.askedInstaller (requestFor here cwd t p) :: h) rest

theorem statusOf_eq_installed_iff (answer : Except Failure Unit) :
    Errand.statusOf answer = .installed ↔ answer = .ok () := by
  cases answer <;> simp [Errand.statusOf]

theorem run_installOne (p : PackageEntry) (said complaints : Octets) (h : History) :
    (installOne (deps.installing f) here cwd p).run ⟨t, ⟨said, none⟩, complaints, h⟩ =
      .ok (outcomeFor f here cwd t h p)
        ⟨t, ⟨said ++ Octets.encode (printed [outcomeFor f here cwd t h p]), none⟩, complaints,
          .askedInstaller (requestFor here cwd t p) :: h⟩ := by
  have look (s : State) : (get : Flow State).run s = .ok s s := rfl
  have unlimited (octets : Octets) : (Sink.put ⟨octets, none⟩ []).1 = ⟨octets, none⟩ := by
    rw [Sink.put, List.append_nil]
  rw [installOne, EStateM.run_bind, look]
  simp only [EStateM.run_bind, Flow.writeLine, run_write_unlimited, Flow.run_consult,
    Collaborators.installing, Reply.quiet, unlimited, List.append_nil]
  rw [outcomeFor, requestFor]
  cases f h (Request.plain p.name (resolve t here p cwd)) with
  | ok _ =>
    rw [Errand.statusOf, printed]
    simp only [EStateM.run_pure, Outcome.account, List.flatMap_cons, List.flatMap_nil, List.append_nil]
  | error failure =>
    rw [Errand.statusOf, printed]
    simp only [EStateM.run_bind, EStateM.run_pure, run_write_unlimited, Outcome.account,
      List.flatMap_cons, List.flatMap_nil, List.append_nil, List.append_assoc]
    rw [← List.append_assoc (announcement _ _), Octets.encode_append (_ ++ _)]

theorem run_installAll (packages : List PackageEntry) (said complaints : Octets) (h : History) :
    (installAll (deps.installing f) here cwd packages).run ⟨t, ⟨said, none⟩, complaints, h⟩ =
      .ok (outcomesFor f here cwd t h packages)
        ⟨t, ⟨said ++ Octets.encode (printed (outcomesFor f here cwd t h packages)), none⟩, complaints,
          askedFor here cwd t packages h⟩ := by
  induction packages generalizing said h with
  | nil =>
    rw [outcomesFor, printed, List.flatMap_nil, Octets.encode_nil, List.append_nil]
    rfl
  | cons p rest ih =>
    have account : printed (outcomesFor f here cwd t h (p :: rest)) =
        printed [outcomeFor f here cwd t h p] ++ printed (outcomesFor f here cwd t
          (.askedInstaller (requestFor here cwd t p) :: h) rest) := by
      simp [printed, outcomesFor]
    have history : askedFor here cwd t (p :: rest) h =
        askedFor here cwd t rest (.askedInstaller (requestFor here cwd t p) :: h) := by
      simp [askedFor]
    rw [account, history, Octets.encode_append, ← List.append_assoc]
    simp only [installAll, EStateM.run_bind, run_installOne, ih, EStateM.run_pure, outcomesFor]

theorem length_outcomesFor (packages : List PackageEntry) (h : History) :
    (outcomesFor f here cwd t h packages).length = packages.length := by
  induction packages generalizing h with
  | nil => rfl
  | cons p rest ih => rw [outcomesFor, List.length_cons, List.length_cons, ih]

theorem getElem?_outcomesFor (packages : List PackageEntry) (h : History) (i : Nat) :
    (outcomesFor f here cwd t h packages)[i]? =
      packages[i]?.map (outcomeFor f here cwd t (askedFor here cwd t (packages.take i) h)) := by
  induction packages generalizing h i with
  | nil => rfl
  | cons p rest ih =>
    cases i with
    | zero => rfl
    | succ i =>
      rw [outcomesFor, List.getElem?_cons_succ, List.getElem?_cons_succ, ih, List.take_succ_cons]
      simp [askedFor]

end Packages

/-- Every package has its turn once, in the order of the list: the installer is asked for it by its
name, with the source that it resolves to and without any flag, whatever became of the packages before
it. It is installed just when the installer says so, and otherwise has failed for the whole chain of
the reasons in one line. The output is what the outcomes tell, one after the other. -/
theorem installs_each_once (deps : Collaborators) (f : History → Request → Except Failure Unit)
    (here : Location) (cwd : Path) (packages : List PackageEntry) (t : Tree)
    (said complaints : Octets) (h : History) :
    let request (p : PackageEntry) : Request := ⟨p.name, resolve t here p cwd, false, false⟩
    let asked (ps : List PackageEntry) : History :=
      (ps.map fun p => .askedInstaller (request p)).reverse ++ h
    ∃ outcomes,
      (installAll (deps.installing f) here cwd packages).run ⟨t, ⟨said, none⟩, complaints, h⟩ =
        .ok outcomes
          ⟨t, ⟨said ++ Octets.encode (printed outcomes), none⟩, complaints, asked packages⟩ ∧
      outcomes.length = packages.length ∧
      ∀ (i : Nat) (p : PackageEntry), packages[i]? = some p →
        ∃ status, outcomes[i]? = some ⟨p.name, resolve t here p cwd, status⟩ ∧
          (status = .installed ↔ f (asked (packages.take i)) (request p) = .ok ()) ∧
          ∀ failure, f (asked (packages.take i)) (request p) = .error failure →
            status = .failed (Text.joinWith ": ".toList failure.chain) := by
  intro request asked
  refine ⟨outcomesFor f here cwd t h packages, run_installAll deps f here cwd t packages _ _ h,
    length_outcomesFor f here cwd t packages h, fun i p turn => ?_⟩
  refine ⟨Errand.statusOf (f (asked (packages.take i)) (request p)), ?_, statusOf_eq_installed_iff _,
    fun failure refused => ?_⟩
  · rw [getElem?_outcomesFor, turn]
    rfl
  · rw [refused]
    rfl

def guarded (h : History) (r : Request) : Except Failure Unit :=
  if .askedInstaller r ∈ h then .error (.context r.label (.said "locked".toList)) else .ok ()

def beside : Tree where
  entries := [(["w".toList], .directory), (["zmq".toList], .directory)]
  sealed_ := []

theorem installs_each_once_guarded :
    let packages : List PackageEntry :=
      [⟨"zmq".toList, none⟩, ⟨"auth".toList, none⟩, ⟨"zmq".toList, none⟩]
    ∃ outcomes st,
      (installAll (obliging.installing guarded) ["w".toList] "/w".toList packages).run
        (.start beside .unlimited) = .ok outcomes st ∧
      outcomes.length = 3 ∧
      outcomes[1]? = some ⟨"auth".toList, .registry "auth".toList, .installed⟩ ∧
      outcomes[2]? = some
        ⟨"zmq".toList, .directory "../zmq".toList, .failed "zmq: locked".toList⟩ := by
  intro packages
  obtain ⟨outcomes, runs, length, each⟩ :=
    installs_each_once obliging guarded ["w".toList] "/w".toList packages beside [] [] []
  obtain ⟨status₁, second, installed, -⟩ := each 1 _ rfl
  obtain ⟨status₂, third, -, failed⟩ := each 2 _ rfl
  refine ⟨outcomes, _, runs, length, ?_, ?_⟩
  · rw [second, installed.2 (if_neg (by decide +kernel))]
    decide +kernel
  · rw [third, failed _ (if_pos (by decide +kernel))]
    decide +kernel

end Install

end PlatformLauncher
