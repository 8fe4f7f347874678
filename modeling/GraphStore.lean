import GraphStore.Main
import GraphStore.Store.Desk
import GraphStore.View.Basic
import GraphStore.Worker.Script
import GraphStore.Proofs.View.Convergence
import GraphStore.Proofs.Worker.LastWord
import GraphStore.Proofs.Worker.Naming
import GraphStore.Proofs.Worker.Supersession
import GraphStore.Proofs.Cache.Accounts
import GraphStore.Proofs.Store.Display
import GraphStore.Proofs.Store.Isolation
import GraphStore.Proofs.Store.Records
import GraphStore.Proofs.Cache.Recency
import GraphStore.Proofs.Store.Bookkeeping
import GraphStore.Proofs.Store.Contents
import GraphStore.Proofs.Worker.Outcome
import GraphStore.Proofs.Cache.History
import GraphStore.Proofs.Store.Verbatim
import GraphStore.Proofs.Worker.Listings
import GraphStore.Proofs.Cache.Inclusion
import GraphStore.Proofs.Store.Repetition
import GraphStore.Proofs.Store.Independence
import GraphStore.Proofs.Store.Reading
import GraphStore.Proofs.Store.Replay
import GraphStore.Proofs.Store.Partitions
import GraphStore.Proofs.Message.RoundTrip
import GraphStore.Proofs.View.Thread
