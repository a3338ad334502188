import IdpSaas.Auth.Suspension
import IdpSaas.Client.SessionIntegrity
import IdpSaas.Prisma.ReadIsolation
import IdpSaas.Prisma.WriteIsolation
import IdpSaas.System.Isolation
import IdpSaas.System.Retries
import IdpSaas.System.Terminal
import IdpSaas.System.Integrity
import IdpSaas.Auth.Guards
import IdpSaas.Auth.Tokens
import IdpSaas.Auth.Registration
import IdpSaas.Auth.Revocation
import IdpSaas.Auth.Accounts
import IdpSaas.Auth.Passwords
import IdpSaas.System.Upload
import IdpSaas.System.ContentCheck
import IdpSaas.Documents.Pages
import IdpSaas.System.Snapshots
import IdpSaas.Lib.Custody
import IdpSaas.System.Custody
import IdpSaas.System.Platform
import IdpSaas.System.CrossStore
import IdpSaas.Storage.RoundTrip
import IdpSaas.Lib.Numeral
import IdpSaas.Config.Numbers
import IdpSaas.Auth.Lifetimes
import IdpSaas.Ocr.Confidence
import IdpSaas.Ocr.Server
import IdpSaas.Lib.Double
import IdpSaas.Lib.Json
import IdpSaas.Auth.Validation
import IdpSaas.Client.Register
import IdpSaas.Client.Fetch
import IdpSaas.Client.Retry
import IdpSaas.Client.Failures
import IdpSaas.System.Http
import IdpSaas.System.ClientCalls
import IdpSaas.Client.Simulation
import IdpSaas.Ocr.Workspace
import IdpSaas.Ocr.Directories
import IdpSaas.Client.DocumentPage
import IdpSaas.System.Recognition
import IdpSaas.System.Watching
import IdpSaas.System.Admission
import IdpSaas.System.Backend
import IdpSaas.Client.Session
import IdpSaas.System.SignIn
import IdpSaas.Documents.Query
import IdpSaas.System.Reading
import IdpSaas.System.SignedIn
import IdpSaas.Auth.Outside
import IdpSaas.System.Tenancy
import IdpSaas.Prisma.Statement
import IdpSaas.Prisma.StatementIsolation
import IdpSaas.Prisma.Nested
