import Spdm.Codec
import Spdm.Protocol
import Spdm.Context
import Spdm.Message.FieldCodecs
import Spdm.Message.Measurement
import Spdm.Message.Certificate
import Spdm.Requester.Basic
import Spdm.Requester.GetCertificate
import Spdm.Requester.CertificateRuns
import Spdm.Requester.CertificateFetch
import Spdm.Requester.CertificateAcceptance
import Spdm.Requester.MeasurementSignature
import Spdm.Requester.GetMeasurements
import Spdm.Requester.MeasurementGuarantees
import Spdm.Requester.MeasurementAcceptance
import Spdm.Requester.MeasurementSession
