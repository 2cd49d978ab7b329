import PyJwt.Implementation.ApiJwt

/-! `jwt/__init__.py` and the ends of `jwt/api_jws.py` and `jwt/api_jwt.py`: the instances of a
program that imports the package, by reference. The module functions are methods of two of them.
-/

namespace PyJwt

open Python

variable (env : Env)

/-- A `PyJWT` instance: its options, and the reference `_jws`. -/
structure JwtObject where
  options : FullOptions
  jws : Nat

/-- The instances of the two classes, by reference. -/
structure Package where
  jws : List PyJWS
  jwt : List JwtObject

namespace Package

/-- `PyJWS(algorithms, options)`, and its reference. -/
def newJws (package : Package) (algorithms : Option (List PyStr)) (options : Option SigOptions)
    : Package × Nat :=
  ({ package with jws := package.jws ++ [PyJWS.init env algorithms options] }, package.jws.length)

/-- `PyJWT(options)`, which makes a `PyJWS` of its own, and its reference. -/
def newJwt (package : Package) (options : Option Options) : Package × Nat :=
  let options := PyJWT.mergeOptions PyJWT.getDefaultOptions options
  let (package, jws) := package.newJws env none (some (PyJWT.getSigOptions options))
  ({ package with jwt := package.jwt ++ [⟨options, jws⟩] }, package.jwt.length)

/-- `jwt._jws = jws`. -/
def assignJws (package : Package) (jwt jws : Nat) : Package :=
  { package with jwt := package.jwt.modify jwt (fun object => { object with jws }) }

/-- What importing the package leaves: `_jws_global_obj`, and `_jwt_global_obj` that uses it. The
`PyJWS` that the latter made for itself has no reference any more.
-/
def imported : Package :=
  let (package, jwsGlobalObj) := newJws env ⟨[], []⟩ none none
  let (package, jwtGlobalObj) := package.newJwt env none
  package.assignJws jwtGlobalObj jwsGlobalObj

/-- The references of the two global instances. -/
def jwsGlobalObj : Nat := 0

def jwtGlobalObj : Nat := 0

/-- The `PyJWT` at the reference, with the `PyJWS` it uses as that is now. -/
def pyJwt? (package : Package) (jwt : Nat) : Option PyJWT := do
  let object ← package.jwt[jwt]?
  let jws ← package.jws[object.jws]?
  return { options := object.options, jws }

/-- What a program does to the instances. No other method writes to one. -/
inductive Statement
  | pyJws (algorithms : Option (List PyStr)) (options : Option SigOptions)
  | pyJwt (options : Option Options)
  | registerAlgorithm (jws : Nat) (algId : PyStr) (algObj : Option Algorithm)
  | unregisterAlgorithm (jws : Nat) (algId : PyStr)

/-- The instances after the statement, also when it raised. -/
def execute (package : Package) : Statement → Package
  | .pyJws algorithms options => (package.newJws env algorithms options).1
  | .pyJwt options => (package.newJwt env options).1
  | .registerAlgorithm jws algId algObj =>
      {
        package with
        jws := package.jws.modify jws (fun self => (self.registerAlgorithm algId algObj).1)
      }
  | .unregisterAlgorithm jws algId =>
      {
        package with
        jws := package.jws.modify jws (fun self => (self.unregisterAlgorithm algId).1)
      }

/-- The instances after a program that starts with the import. -/
def run (program : List Statement) : Package := program.foldl (execute env) (imported env)

end Package

end PyJwt
