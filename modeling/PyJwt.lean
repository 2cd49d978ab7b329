import PyJwt.Correctness.ClientErrors
import PyJwt.Correctness.CompactTokens
import PyJwt.Correctness.ConstructedKeys
import PyJwt.Correctness.CriticalExtensions
import PyJwt.Correctness.Deployment
import PyJwt.Correctness.DetachedPayload
import PyJwt.Correctness.EmittedHeader
import PyJwt.Correctness.EncodeErrors
import PyJwt.Correctness.ExportedKeys
import PyJwt.Correctness.FetchedKeys
import PyJwt.Correctness.IdentityClaims
import PyJwt.Correctness.IssuedClaims
import PyJwt.Correctness.JwkAlgorithm
import PyJwt.Correctness.JwkRoundTrip
import PyJwt.Correctness.JwkSetLoading
import PyJwt.Correctness.JwkSignatures
import PyJwt.Correctness.JwtRoundTrip
import PyJwt.Correctness.KeyLength
import PyJwt.Correctness.KeyRotation
import PyJwt.Correctness.KeyTexts
import PyJwt.Correctness.LibraryErrors
import PyJwt.Correctness.Lifetime
import PyJwt.Correctness.LooserDecoding
import PyJwt.Correctness.OptionResolution
import PyJwt.Correctness.PayloadMethods
import PyJwt.Correctness.PreparedKeys
import PyJwt.Correctness.RawSignatures
import PyJwt.Correctness.ReexportedKeys
import PyJwt.Correctness.RegisteredHandlers
import PyJwt.Correctness.RegistryListing
import PyJwt.Correctness.RequestRate
import PyJwt.Correctness.RespelledTokens
import PyJwt.Correctness.SharedRegistry
import PyJwt.Correctness.SigningKeyCache
import PyJwt.Correctness.SortedHeaders
import PyJwt.Correctness.TimeWindow
import PyJwt.Correctness.UnusableResponses
import PyJwt.Correctness.VerifiedDecoding
