import PyJwt.Correctness.ImportedMembers

/-! Exporting an imported JWK again. What comes back agrees with the JWK where the importer made
the key of the members it read, which of an Edwards key with `d` it does not for `x`.
-/

namespace PyJwt

open Foundations
open Python

variable {env : Env} {obj : Dict Json} {key : Key}

-----------------------------------------------------------------------------------------
-- Agreement
-----------------------------------------------------------------------------------------

/-- The members that a key is made of. -/
def keyMembers : List PyStr := ["kty", "crv", "x", "y", "n", "e", "d", "k"]

/-- Where the object has the member, it has the value. -/
def Matches (obj : Dict Json) (name : PyStr) (value : Json) : Prop :=
  ∀ stated, obj.get? name = some stated → stated = value

/-- The objects have the same values under the names that both contain. -/
def AgreesOn (names : List PyStr) (obj other : Dict Json) : Prop :=
  ∀ name ∈ names, ∀ value, other.get? name = some value → Matches obj name value

theorem matches_of_get? {name : PyStr} {value : Json} (h : obj.get? name = some value)
    : Matches obj name value :=
  fun _ stated => Option.some.inj (stated.symm.trans h)

theorem agreesOn_set {names : List PyStr} {other : Dict Json} (h : AgreesOn names obj other)
    {name : PyStr} {value : Json} (added : name ∈ names → Matches obj name value)
    : AgreesOn names obj (other.set name value) := by
  intro asked member stored found
  rw [Dict.get?_set] at found
  rcases ite_eq_iff.mp found with ⟨same, isValue⟩ | ⟨_, kept⟩
  · cases same
    cases isValue
    exact added member
  · exact h asked member stored kept

/-- By induction on the entries, each of which is set in turn. -/
theorem agreesOn_update {names : List PyStr} {entries : List (PyStr × Json)}
    (matching : ∀ entry ∈ entries, entry.1 ∈ names → Matches obj entry.1 entry.2)
    {other : Dict Json} (h : AgreesOn names obj other)
    : AgreesOn names obj (other.update entries) := by
  induction entries generalizing other with
  | nil => exact h
  | cons head rest ih =>
      rw [Dict.update_cons]
      refine ih (fun entry member => matching entry (List.mem_cons_of_mem head member)) ?_
      exact agreesOn_set h (matching head List.mem_cons_self)

theorem agreesOn_ofEntries {names : List PyStr} {entries : List (PyStr × Json)}
    (matching : ∀ entry ∈ entries, entry.1 ∈ names → Matches obj entry.1 entry.2)
    : AgreesOn names obj (Dict.ofEntries entries) :=
  agreesOn_update matching (fun _ _ _ found => nomatch found)

-----------------------------------------------------------------------------------------
-- Canonical members
-----------------------------------------------------------------------------------------

/-- The member, where there is one, is the unpadded base64url text of such bytes. -/
def CanonicalMember (obj : Dict Json) (accepts : Bytes → Prop) (name : PyStr) : Prop :=
  ∀ value, obj.get? name = some value → ∃ data, value = bytesMember data ∧ accepts data

/-- The bytes of a number without leading zero bytes, where zero is one byte. -/
def LeadsNonzero (data : Bytes) : Prop :=
  data = [0] ∨ ∃ byte rest, data = byte :: rest ∧ byte ≠ 0

/-- The members that a key of the family is made of are canonical. -/
def JwkFamily.Canonical (obj : Dict Json) : JwkFamily → Prop
  | oct => CanonicalMember obj (fun _ => True) "k"
  | rsa => ∀ name ∈ (["n", "e", "d"] : List PyStr), CanonicalMember obj LeadsNonzero name
  | ec => ∀ name ∈ (["x", "y", "d"] : List PyStr), CanonicalMember obj (fun _ => True) name
  | okp => ∀ name ∈ (["x", "d"] : List PyStr), CanonicalMember obj (fun _ => True) name

/-- The text of bytes determines them. -/
theorem bytesMember_injective {data other : Bytes} (h : bytesMember data = bytesMember other)
    : data = other := by
  have decodes := base64urlDecode_bytesMember data
  rw [h, base64urlDecode_bytesMember] at decodes
  exact (Except.ok.inj decodes).symm

/-- A canonical member is the text of the bytes it is decoded to. -/
theorem matches_of_decodes {accepts : Bytes → Prop} {name : PyStr} {data : Bytes}
    (canonical : CanonicalMember obj accepts name) (decodes : Decodes obj name data)
    : Matches obj name (bytesMember data) := by
  intro stated found
  obtain ⟨other, rfl, _⟩ := canonical stated found
  rw [Decodes, getOrNull, found, Option.getD_some, base64urlDecode_bytesMember] at decodes
  cases decodes
  rfl

/-- What is decoded is there, as the text of its bytes. -/
theorem get?_of_decodes {accepts : Bytes → Prop} {name : PyStr} {data : Bytes}
    (canonical : CanonicalMember obj accepts name) (decodes : Decodes obj name data)
    : obj.get? name = some (bytesMember data) := by
  cases found : obj.get? name with
  | none =>
      rw [Decodes, getOrNull, found] at decodes
      cases decodes
  | some stated => exact congrArg some (matches_of_decodes canonical decodes stated found)

/-- A canonical number is the text of the shortest bytes that denote it. -/
theorem matches_of_uintMember {name : PyStr} {number : Nat} {data : Bytes}
    (canonical : CanonicalMember obj LeadsNonzero name)
    (read : uintMember obj name = .ok number) (shortest : BigEndian.Shortest number data)
    : Matches obj name (bytesMember data) := by
  intro stated found
  obtain ⟨other, rfl, leads⟩ := canonical stated found
  rw [uintMember_of_get? found] at read
  cases read
  rw [(BigEndian.shortest_of_head leads).unique shortest]

/-- A coordinate in the width of its curve is the text of those bytes. -/
theorem ECAlgorithm.matches_of_fills {accepts : Bytes → Prop} {name : PyStr} {curve : Curve}
    {read data : Bytes} (canonical : CanonicalMember obj accepts name)
    (decodes : Decodes obj name read) (width : read.length = (curve.keySize + 7) / 8)
    (fills : Fills curve (BigEndian.ofBytes read) data)
    : Matches obj name (bytesMember data) := by
  have same : data = read := BigEndian.eq_of_ofBytes (fills.1.trans width.symm) fills.2
  rw [same]
  exact matches_of_decodes canonical decodes

-----------------------------------------------------------------------------------------
-- The families
-----------------------------------------------------------------------------------------

/-- The key is exported as an object that agrees on the members of keys. -/
def Reexports (env : Env) (family : JwkFamily) (key : Key) (obj : Dict Json) : Prop :=
  ∃ exported : Dict Json,
    family.toJwk env key true = .ok exported.toJson ∧ AgreesOn keyMembers obj exported

theorem HMACAlgorithm.reexports (imports : Imports obj key)
    (canonical : JwkFamily.oct.Canonical obj)
    : Reexports env .oct key obj := by
  cases imports with
  | @secret data kty isK =>
      refine ⟨secretObject data, toJwk_eq rfl true, agreesOn_ofEntries ?_⟩
      intro entry member
      simp only [List.mem_cons, List.not_mem_nil, or_false] at member
      rcases member with rfl | rfl
      · exact fun _ => matches_of_decodes canonical isK
      · exact fun _ => matches_of_get? kty

theorem RSAAlgorithm.reexports (keeps : KeepsNumbers env.crypto) (imports : Imports env obj key)
    (canonical : JwkFamily.rsa.Canonical obj)
    : Reexports env .rsa key obj := by
  cases imports with
  | ofPublic kty isE isN builds =>
      cases keeps.rsaPublicKey builds
      obtain ⟨n, e, nShortest, eShortest, exports⟩ := toJwk_public env _
      refine ⟨publicObject n e, exports true, agreesOn_ofEntries ?_⟩
      intro entry member
      simp only [List.mem_cons, List.not_mem_nil, or_false] at member
      rcases member with rfl | rfl | rfl | rfl
      · exact fun _ => matches_of_get? kty
      · exact fun listed => absurd listed (by decide)
      · exact fun _ => matches_of_uintMember (canonical "n" (by simp)) isN nShortest
      · exact fun _ => matches_of_uintMember (canonical "e" (by simp)) isE eShortest
  | ofPrivate kty isE isN isD builds =>
      cases keeps.rsaPrivateKey builds
      obtain ⟨n, e, d, p, q, dp, dq, qi, nShortest, eShortest, dShortest, _, _, _, _, _, exports⟩ :=
        toJwk_private env _
      refine ⟨privateObject n e d p q dp dq qi, exports true, agreesOn_ofEntries ?_⟩
      intro entry member
      simp only [privateEntries, List.mem_cons, List.not_mem_nil, or_false] at member
      -- The primes and what follows from them are not compared.
      have unlisted : ∀ name ∈ crtMembers, name ∉ keyMembers := by decide
      rcases member with rfl | rfl | rfl | rfl | rfl | rfl | rfl | rfl | rfl | rfl
      · exact fun _ => matches_of_get? kty
      · exact fun listed => absurd listed (by decide)
      · exact fun _ => matches_of_uintMember (canonical "n" (by simp)) isN nShortest
      · exact fun _ => matches_of_uintMember (canonical "e" (by simp)) isE eShortest
      · exact fun _ => matches_of_uintMember (canonical "d" (by simp)) isD dShortest
      all_goals exact fun listed => absurd listed (unlisted _ (by simp [crtMembers]))

/-- A `crv` that names a curve is the name that the curve is exported under. -/
theorem ECAlgorithm.crv_of_entry {crv : PyStr} {curve : Curve} {width : Nat}
    (entry : getEntry crv jwkEcCurves = some (curve, width))
    : 0 < curve.keySize
      ∧ jwkCurveName curve = .ok crv
      ∧ width = (curve.keySize + 7) / 8 := by
  have nodup : (jwkEcCurves.map Prod.fst).Nodup := by decide
  have member := (getEntry_eq_some_iff nodup).mp entry
  obtain ⟨_, found, isWidth⟩ := jwkEcCurves_inverse _ member
  have named : curve ∈ jwkEcCurves.map (fun entry => entry.2.1) :=
    List.mem_map.mpr ⟨_, member, rfl⟩
  refine ⟨(curve_exchanges named).1, ?_, isWidth⟩
  simp only [jwkCurveName, found]

theorem ECAlgorithm.reexports (keeps : KeepsNumbers env.crypto) (imports : Imports env obj key)
    (canonical : JwkFamily.ec.Canonical obj)
    : Reexports env .ec key obj := by
  cases imports with
  | @ofPublic crv curve x y built kty isCrv onCurve sameWidth isX isY builds =>
      cases keeps.ecPublicKey builds
      obtain ⟨wide, named, width⟩ := crv_of_entry onCurve
      have yWidth := sameWidth.trans width
      have fits : PointFits (pointNumbers x y curve) :=
        ⟨width ▸ BigEndian.ofBytes_lt x, yWidth ▸ BigEndian.ofBytes_lt y⟩
      obtain ⟨xData, yData, xFills, yFills, exports⟩ :=
        @toJwk_public env (pointNumbers x y curve) wide crv named fits
      refine ⟨publicObject crv xData yData, exports true, agreesOn_ofEntries ?_⟩
      intro entry member
      simp only [List.mem_cons, List.not_mem_nil, or_false] at member
      rcases member with rfl | rfl | rfl | rfl
      · exact fun _ => matches_of_get? kty
      · exact fun _ => matches_of_get? isCrv
      · exact fun _ => matches_of_fills (canonical "x" (by simp)) isX width xFills
      · exact fun _ => matches_of_fills (canonical "y" (by simp)) isY yWidth yFills
  | @ofPrivate crv curve x y d built kty isCrv onCurve sameWidth isX isY isD sameWidthD builds =>
      cases keeps.ecPrivateKey builds
      obtain ⟨wide, named, width⟩ := crv_of_entry onCurve
      have yWidth := sameWidth.trans width
      have dWidth := sameWidthD.trans width
      have fits : PointFits (pointNumbers x y curve) :=
        ⟨width ▸ BigEndian.ofBytes_lt x, yWidth ▸ BigEndian.ofBytes_lt y⟩
      obtain ⟨xData, yData, dData, xFills, yFills, dFills, exports⟩ :=
        @toJwk_private env ⟨BigEndian.ofBytes d, pointNumbers x y curve⟩ wide crv named fits
          (dWidth ▸ BigEndian.ofBytes_lt d)
      refine ⟨privateObject crv xData yData dData, exports true, ?_⟩
      refine agreesOn_set (agreesOn_ofEntries ?_) ?_
      · intro entry member
        simp only [List.mem_cons, List.not_mem_nil, or_false] at member
        rcases member with rfl | rfl | rfl | rfl
        · exact fun _ => matches_of_get? kty
        · exact fun _ => matches_of_get? isCrv
        · exact fun _ => matches_of_fills (canonical "x" (by simp)) isX width xFills
        · exact fun _ => matches_of_fills (canonical "y" (by simp)) isY yWidth yFills
      · exact fun _ => matches_of_fills (canonical "d" (by simp)) isD dWidth dFills

/-- A private Edwards JWK states the public key that is derived from its private one. -/
def PublicBelongs (env : Env) (obj : Dict Json) : Prop :=
  ∀ curve x d,
    obj.get? "kty" = some (.str "OKP")
    → obj.get? "crv" = some (.str (OKPAlgorithm.crvName curve))
    → Decodes obj "x" x
    → Decodes obj "d" d
    → x = env.crypto.edPublicOf curve d

/-- Nothing but the curve and the derived public key can disagree, and the curve does not. -/
theorem OKPAlgorithm.reexports_iff (keeps : KeepsNumbers env.crypto)
    (imports : Imports env obj key) (canonical : JwkFamily.okp.Canonical obj)
    : Reexports env .okp key obj ↔ PublicBelongs env obj := by
  cases imports with
  | @ofPublic curve x raw kty isCrv isX noD builds =>
      cases keeps.edPublicFromBytes builds
      refine iff_of_true ⟨publicObject curve x, toJwk_public env curve x true, ?_⟩ ?_
      · refine agreesOn_ofEntries ?_
        intro entry member
        simp only [List.mem_cons, List.not_mem_nil, or_false] at member
        rcases member with rfl | rfl | rfl
        · exact fun _ => matches_of_decodes (canonical "x" (by simp)) isX
        · exact fun _ => matches_of_get? kty
        · exact fun _ => matches_of_get? isCrv
      · intro _ _ d _ _ _ isD
        rw [Decodes, getOrNull, noD] at isD
        cases isD
  | @ofPrivate curve x d raw kty isCrv isX isD builds =>
      cases keeps.edPrivateFromBytes builds
      have exports := toJwk_private env curve d true
      constructor
      · intro h other otherX otherD _ isOther alsoX alsoD
        cases isX.symm.trans alsoX
        cases isD.symm.trans alsoD
        have sameName : crvName other = crvName curve :=
          Json.str.inj (Option.some.inj (isOther.symm.trans isCrv))
        have sameCurve : other = curve := by
          have resolves := (crv_exchanges other).2
          rw [sameName, (crv_exchanges curve).2] at resolves
          exact (Option.some.inj resolves).symm
        subst sameCurve
        obtain ⟨exported, isExport, agrees⟩ := h
        have sameObject : exported = privateObject other (env.crypto.edPublicOf other d) d := by
          have sameJson := congrArg Json.asDict? (Except.ok.inj (isExport.symm.trans exports))
          simpa using sameJson
        have derived : exported.get? "x" = some (bytesMember (env.crypto.edPublicOf other d)) := by
          rw [sameObject]
          rfl
        have stated := get?_of_decodes (canonical "x" (by simp)) isX
        exact bytesMember_injective (agrees "x" (by decide) _ derived _ stated)
      · intro belongs
        have same := belongs curve x d kty isCrv isX isD
        refine ⟨privateObject curve (env.crypto.edPublicOf curve d) d, exports, ?_⟩
        refine agreesOn_ofEntries ?_
        intro entry member
        simp only [List.mem_cons, List.not_mem_nil, or_false] at member
        rcases member with rfl | rfl | rfl | rfl
        · rw [← same]
          exact fun _ => matches_of_decodes (canonical "x" (by simp)) isX
        · exact fun _ => matches_of_decodes (canonical "d" (by simp)) isD
        · exact fun _ => matches_of_get? kty
        · exact fun _ => matches_of_get? isCrv

/-- A canonical JWK that is imported denotes the key that it is exported as again, member by
member, exactly when it is no Edwards JWK whose `x` is another key than that of its `d`.
-/
theorem fromJwk_reexports_iff (keeps : KeepsNumbers env.crypto) {family : JwkFamily}
    {entries : List (PyStr × Json)} (imported : family.fromJwk env (.dict entries) = .ok key)
    (canonical : family.Canonical (Dict.ofEntries entries))
    : Reexports env family key (Dict.ofEntries entries)
      ↔ PublicBelongs env (Dict.ofEntries entries) := by
  have vacuous {kty : PyStr} (isKty : (Dict.ofEntries entries).get? "kty" = some (.str kty))
      (other : kty ≠ "OKP")
      : PublicBelongs env (Dict.ofEntries entries) := by
    intro _ _ _ isOkp
    cases isKty.symm.trans isOkp
    exact absurd rfl other
  cases family with
  | oct =>
      have imports := HMACAlgorithm.imports_of_fromJwk imported
      refine iff_of_true (HMACAlgorithm.reexports imports canonical) ?_
      cases imports with
      | secret kty _ => exact vacuous kty (by decide)
  | rsa =>
      have imports := RSAAlgorithm.imports_of_fromJwk imported
      refine iff_of_true (RSAAlgorithm.reexports keeps imports canonical) ?_
      cases imports with
      | ofPublic kty _ _ _ => exact vacuous kty (by decide)
      | ofPrivate kty _ _ _ _ => exact vacuous kty (by decide)
  | ec =>
      have imports := ECAlgorithm.imports_of_fromJwk imported
      refine iff_of_true (ECAlgorithm.reexports keeps imports canonical) ?_
      cases imports with
      | ofPublic kty _ _ _ _ _ _ => exact vacuous kty (by decide)
      | ofPrivate kty _ _ _ _ _ _ _ _ => exact vacuous kty (by decide)
  | okp =>
      exact OKPAlgorithm.reexports_iff keeps (OKPAlgorithm.imports_of_fromJwk imported) canonical

-----------------------------------------------------------------------------------------
-- A private key with its own public key, and with another one
-----------------------------------------------------------------------------------------

/-- The public key of the seed of 32 zero bytes. -/
def seedPublic : Bytes :=
  BigEndian.lowBytes 32 0x3b6a27bcceb6a42d62a3a8d02a6f0d73653215771de243a63ac048a18b59da29

/-- The public key of another seed. -/
def otherPublic : Bytes :=
  BigEndian.lowBytes 32 0xd75a980182b10ab7d54bfed3c964073a0ee172f3daa62325af021a68f707511a

/-- A process in which the one Edwards private key is the seed of 32 zero bytes. -/
def seedEnv : Env :=
  {
    constructingEnv with
    crypto :=
      { constructingEnv.crypto with
        edPrivateFromBytes := fun _ raw =>
          if raw = List.replicate 32 0 then .ok raw
          else .error ⟨.valueError, [.text "An Ed25519 private key is 32 bytes long"]⟩
        edPublicOf := fun _ _ => seedPublic }
  }

theorem keepsNumbers_seedEnv : KeepsNumbers seedEnv.crypto where
  rsaPublicKey := nofun
  rsaPrivateKey := nofun
  ecPublicKey := nofun
  ecPrivateKey built := (Except.ok.inj built).symm
  edPublicFromBytes := nofun
  edPrivateFromBytes built := by
    rcases ite_eq_iff.mp built with ⟨_, returned⟩ | ⟨_, impossible⟩
    · exact (Except.ok.inj returned).symm
    · cases impossible

/-- A private JWK of the seed that states the public key. -/
def seedEntries (stated : Bytes) : List (PyStr × Json) :=
  [
    ("kty", .str "OKP"), ("crv", .str "Ed25519"), ("x", bytesMember stated),
    ("d", bytesMember (List.replicate 32 0))
  ]

/-- The key is imported whatever public key is stated. -/
theorem fromJwk_seedEntries (stated : Bytes)
    : OKPAlgorithm.fromJwk seedEnv (.dict (seedEntries stated))
      = .ok (.object (.edPrivate .ed25519 (List.replicate 32 0))) := by
  have kty : (Dict.ofEntries (seedEntries stated)).get? "kty" = some (.str "OKP") := rfl
  have crv : (Dict.ofEntries (seedEntries stated)).get? "crv" = some (.str "Ed25519") := rfl
  have x : (Dict.ofEntries (seedEntries stated)).get? "x" = some (bytesMember stated) := rfl
  have d : (Dict.ofEntries (seedEntries stated)).get? "d"
      = some (bytesMember (List.replicate 32 0)) := rfl
  unfold OKPAlgorithm.fromJwk
  rw [parseJwkJson_dict_bind]
  unfold getOrNull Dict.contains
  simp only [kty, crv, x, d, Option.getD_some, Json.asStr?, base64urlDecode_bytesMember,
    Option.isSome_some, Bool.not_true, Bool.false_eq_true, if_false, outcome_ok_bind]
  rfl

theorem canonical_seedEntries (stated : Bytes)
    : JwkFamily.okp.Canonical (Dict.ofEntries (seedEntries stated)) := by
  intro name member value found
  simp only [List.mem_cons, List.not_mem_nil, or_false] at member
  rcases member with rfl | rfl
  · cases found
    exact ⟨stated, rfl, trivial⟩
  · cases found
    exact ⟨List.replicate 32 0, rfl, trivial⟩

/-- The seed with its own public key is exported as it was. -/
theorem fromJwk_reexports_iff_seed
    : ∃ key,
        OKPAlgorithm.fromJwk seedEnv (.dict (seedEntries seedPublic)) = .ok key
        ∧ Reexports seedEnv .okp key (Dict.ofEntries (seedEntries seedPublic)) := by
  have imported := fromJwk_seedEntries seedPublic
  refine ⟨_, imported, ?_⟩
  refine (@fromJwk_reexports_iff seedEnv _ keepsNumbers_seedEnv .okp _ imported
    (canonical_seedEntries seedPublic)).mpr ?_
  intro _ x _ _ _ isX _
  have stated : Decodes (Dict.ofEntries (seedEntries seedPublic)) "x" seedPublic :=
    base64urlDecode_bytesMember seedPublic
  exact Except.ok.inj (isX.symm.trans stated)

/-- With another public key it is imported all the same, and exported with its own. -/
theorem fromJwk_otherPublic
    : ∃ key,
        OKPAlgorithm.fromJwk seedEnv (.dict (seedEntries otherPublic)) = .ok key
        ∧ JwkFamily.okp.Canonical (Dict.ofEntries (seedEntries otherPublic))
        ∧ ¬Reexports seedEnv .okp key (Dict.ofEntries (seedEntries otherPublic)) := by
  have imported := fromJwk_seedEntries otherPublic
  have canonical := canonical_seedEntries otherPublic
  refine ⟨_, imported, canonical, fun agrees => ?_⟩
  have belongs := (OKPAlgorithm.reexports_iff keepsNumbers_seedEnv
    (OKPAlgorithm.imports_of_fromJwk imported) canonical).mp agrees
  have same := belongs .ed25519 otherPublic (List.replicate 32 0) rfl rfl
    (base64urlDecode_bytesMember otherPublic) (base64urlDecode_bytesMember _)
  exact absurd same (by decide)

end PyJwt
