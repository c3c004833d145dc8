import Mathlib.Algebra.Order.Ring.Nat
import Mathlib.Data.List.Basic
import ShortHand.Library.Outcome

/-! The reference network and the synthetic data (`TrainingQualification.cpp`). The operations
on `float` and `double` are given. -/

namespace ShortHand.Training

open ShortHand.Library List

/-- The floating-point operations of the host, each a function of its arguments.
`decimal m k` is the `float` literal `m · 10⁻ᵏ`. -/
structure FloatOps where
  Float : Type
  Double : Type
  decimal : Int → Nat → Float
  ofNat : Nat → Float
  add : Float → Float → Float
  sub : Float → Float → Float
  mul : Float → Float → Float
  div : Float → Float → Float
  exp : Float → Float
  log : Float → Float
  lt : Float → Float → Bool
  le : Float → Float → Bool
  isFinite : Float → Bool
  widen : Float → Double
  doubleOfNat : Nat → Double
  doubleAdd : Double → Double → Double
  doubleDiv : Double → Double → Double
  doubleLt : Double → Double → Bool
  doubleLe : Double → Double → Bool
  doubleIsFinite : Double → Bool

variable (F : FloatOps)

namespace FloatOps

def zero : F.Float := F.decimal 0 0

/-- `std::max`. -/
def max (left right : F.Float) : F.Float := if F.lt left right then right else left

end FloatOps

/-- The generator steps its state and returns it. -/
def nextRandom (state : UInt32) : UInt32 :=
  let state := state ^^^ (state <<< 13)
  let state := state ^^^ (state >>> 17)
  state ^^^ (state <<< 5)

/-- A draw below a bound, scaled to the interval around zero. -/
def centred (state : UInt32) (bound : Nat) : F.Float :=
  F.sub (F.div (F.ofNat (state.toNat % bound)) (F.decimal bound 0)) (F.decimal 5 1)

structure Example where
  image : List F.Float
  label : Nat

/-- The pixels of one image, with the state of the generator. -/
def imagePixels (label : Nat) (state : UInt32) : List F.Float × UInt32 :=
  (range 64).foldl (fun (pixels, state) index =>
    let y := index / 8
    let x := index % 8
    let state := nextRandom state
    let stripe := if (if label ≠ 0 then y else x) % 2 ≠ 0 then F.decimal 8 1 else F.decimal (-8) 1
    (pixels ++ [F.add stripe (F.mul (centred F state 1000) (F.decimal 2 1))], state)) ([], state)

def dataset (count : Nat) (seed : UInt32) : List (Example F) :=
  ((range count).foldl (fun (examples, state) n =>
    let (image, state) := imagePixels F (n % 2) state
    (examples ++ [⟨image, n % 2⟩], state)) ([], if seed ≠ 0 then seed else 1)).1

def parameterCount : Nat := 354

variable {F}

/-- `vector[index]`; the source never reads past the end. -/
def entry (values : List F.Float) (index : Nat) : F.Float := values.getD index F.zero

/-- A 3×3 convolution with bias and a rectifier. -/
def convolution (input : List F.Float) (channels side filters : Nat) (weights : List F.Float)
    (offset : Nat) : List F.Float :=
  let width := side - 2
  let bias := offset + filters * channels * 9
  (range filters).flatMap fun f => (range width).flatMap fun y =>
    (range width).map fun x =>
      let sum := (range channels).foldl (fun sum c => (range 3).foldl (fun sum ky =>
        (range 3).foldl (fun sum kx =>
          F.add sum (F.mul (entry input ((c * side + y + ky) * side + x + kx))
            (entry weights (offset + ((f * channels + c) * 3 + ky) * 3 + kx)))) sum) sum)
        (entry weights (bias + f))
      F.max F.zero sum

/-- `vector[index] += value`. -/
def increase (values : List F.Float) (index : Nat) (value : F.Float) : List F.Float :=
  values.set index (F.add (entry values index) value)

/-- Adds the gradient of one convolution and returns it with the derivative of the
input. -/
def backward (input output derivative : List F.Float) (channels side filters : Nat)
    (weights : List F.Float) (offset : Nat) (gradient : List F.Float) :
    List F.Float × List F.Float :=
  let width := side - 2
  let bias := offset + filters * channels * 9
  (range filters).foldl (fun sums f => (range width).foldl (fun sums y =>
    (range width).foldl (fun (gradient, inputDerivative) x =>
      let o := (f * width + y) * width + x
      let d := if F.lt F.zero (entry output o) then entry derivative o else F.zero
      (range channels).foldl (fun sums c => (range 3).foldl (fun sums ky =>
        (range 3).foldl (fun (gradient, inputDerivative) kx =>
          let wi := offset + ((f * channels + c) * 3 + ky) * 3 + kx
          let ii := (c * side + y + ky) * side + x + kx
          (increase gradient wi (F.mul d (entry input ii)),
            increase inputDerivative ii (F.mul d (entry weights wi)))) sums) sums)
        (increase gradient (bias + f) d, inputDerivative)) sums) sums)
    (gradient, replicate input.length F.zero)

variable (F) in
/-- `ReferenceCNN::ReferenceCNN`. -/
def initialParameters (seed : UInt32) : List F.Float :=
  let drawn := ((List.range parameterCount).foldl (fun (drawn, state) _ =>
    let state := nextRandom state
    (drawn ++ [F.mul (centred F state 10000) (F.decimal 4 1)], state))
    ([], if seed ≠ 0 then seed else 1)).1
  drawn.mapIdx fun index value =>
    if (36 ≤ index ∧ index < 40) ∨ (328 ≤ index ∧ index < 336) then F.decimal 5 2
    else if index = 352 ∨ index = 353 then F.zero else value

/-- What the forward pass of one example leaves for the backward pass. -/
structure Forward (F : FloatOps) where
  first : List F.Float
  second : List F.Float
  pool : List F.Float
  exponents : List F.Float
  prediction : Nat
  loss : F.Float

def forward (parameters image : List F.Float) (label : Nat) : Except String (Forward F) := do
  ensure (label ≤ 1 && parameters.length == parameterCount) "invalid_cnn_input"
  ensure (image.all F.isFinite) "nonfinite_cnn_input"
  let first := convolution image 1 8 4 parameters 0
  let second := convolution first 4 6 8 parameters 40
  let pool := (range 8).map fun c => (range 16).foldl (fun sum i =>
    F.add sum (F.div (entry second (c * 16 + i)) (F.decimal 16 0))) F.zero
  let logits := (range 2).map fun o => (range 8).foldl (fun sum c =>
    F.add sum (F.mul (entry pool c) (entry parameters (336 + o * 8 + c))))
      (entry parameters (352 + o))
  let maximum := F.max (entry logits 0) (entry logits 1)
  let e0 := F.exp (F.sub (entry logits 0) maximum)
  let e1 := F.exp (F.sub (entry logits 1) maximum)
  let loss := F.sub (F.add maximum (F.log (F.add e0 e1))) (entry logits label)
  ensure (F.isFinite loss) "nonfinite_training_loss"
  return { first, second, pool, exponents := [e0, e1], loss
           prediction := if F.lt (entry logits 0) (entry logits 1) then 1 else 0 }

/-- The gradient of one example. -/
def gradientOf (parameters image : List F.Float) (label : Nat) (pass : Forward F) :
    List F.Float :=
  let total := F.add (entry pass.exponents 0) (entry pass.exponents 1)
  let d := (pass.exponents.map fun value => F.div value total).modify label
    fun value => F.sub value (F.decimal 1 0)
  let (gradient, pd) := (range 2).foldl (fun (gradient, pd) o =>
    let gradient := gradient.set (352 + o) (entry d o)
    (range 8).foldl (fun (gradient, pd) c =>
      (gradient.set (336 + o * 8 + c) (F.mul (entry d o) (entry pass.pool c)),
        increase pd c (F.mul (entry d o) (entry parameters (336 + o * 8 + c))))) (gradient, pd))
    (replicate parameterCount F.zero, replicate 8 F.zero)
  let bd := (range 8).flatMap fun c =>
    (range 16).map fun _ => F.div (entry pd c) (F.decimal 16 0)
  let (gradient, ad) := backward pass.first pass.second bd 4 6 8 parameters 40 gradient
  (backward image pass.first ad 1 8 4 parameters 0 gradient).1

/-- `ReferenceCNN::lossAndGradient` with a gradient to fill in; nothing is thrown once
the gradient is being written. -/
def lossAndGradient (parameters : List F.Float) (sample : Example F) :
    Except String (F.Float × List F.Float) := do
  let pass ← forward parameters sample.image sample.label
  return (pass.loss, gradientOf parameters sample.image sample.label pass)

/-- The mean loss and the accuracy over some examples. -/
def evaluate (parameters : List F.Float) (samples : List (Example F)) :
    Except String (F.Double × F.Double) := do
  let (loss, correct) ← samples.foldlM (fun (loss, correct) sample => do
    let pass ← forward parameters sample.image sample.label
    return (F.doubleAdd loss (F.widen pass.loss),
      correct + if pass.prediction = sample.label then 1 else 0)) (F.doubleOfNat 0, 0)
  return (F.doubleDiv loss (F.doubleOfNat samples.length),
    F.doubleDiv (F.doubleOfNat correct) (F.doubleOfNat samples.length))

end ShortHand.Training
