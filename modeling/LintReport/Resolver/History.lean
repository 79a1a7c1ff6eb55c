import LintReport.Resolver.Lookup

/-!
# Lookups over time

Several caches may be in use on one disk, and the disk may change between lookups. A history is a
sequence of lookups and changes; each lookup uses one of the caches and extends it.
-/

namespace LintReport.Resolver

inductive Event where
  | lookup (cache : Nat) (p : Position)
  | put (path : Text) (content : Disk.Content)
  | delete (path : Text)

structure State where
  disk : Disk
  caches : Nat → Cache

namespace State

def start (disk : Disk) : State := ⟨disk, fun _ => Cache.empty⟩

def setCache (s : State) (i : Nat) (cache : Cache) : State :=
  { s with caches := fun j => if j = i then cache else s.caches j }

def work? (s : State) : Event → Option (Work Fault Resolution)
  | .lookup i p => some (Resolver.lookup s.disk (s.caches i) p)
  | .put _ _ | .delete _ => none

def next (s : State) (e : Event) : State :=
  match e with
  | .lookup i p => s.setCache i (Resolver.lookup s.disk (s.caches i) p).cache
  | .put path content => { s with disk := s.disk.put path content }
  | .delete path => { s with disk := s.disk.delete path }

def after (s : State) (events : List Event) : State :=
  events.foldl next s

@[simp] theorem setCache_same (s : State) (i : Nat) (cache : Cache) :
    (s.setCache i cache).caches i = cache := by
  simp [setCache]

theorem setCache_other (s : State) {i j : Nat} (h : j ≠ i) (cache : Cache) :
    (s.setCache i cache).caches j = s.caches j := by
  simp [setCache, h]

@[simp] theorem after_nil (s : State) : s.after [] = s := rfl

@[simp] theorem after_cons (s : State) (e : Event) (events : List Event) :
    s.after (e :: events) = (s.next e).after events := rfl

end State

end LintReport.Resolver
