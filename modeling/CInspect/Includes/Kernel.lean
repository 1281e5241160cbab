import CInspect.Text.Packed
/-!
The headers of the operating system kernel that the C library headers include: its basic types, numbers of errors and requests, and socket options.

Each entry is the full path of a header and its text, reduced to the
declarations and macros that programs can see, each on the line it
stands on in the header.
-/

namespace CInspect.Includes

/-- The kernel headers the library headers include. -/
def kernelHeaders : List (String × String) := Text.unpackEntries <|
  String.join [
    "/usr/include/asm-generic/bitsperlong.h``#ifndef __ASM_GENERIC_BITS_PER_LONG`#define~=!H~+!p~/!<~&!!#if ~&!nd(__CHAR_BIT__) &&~+!<SIZEOF~%!a__)~+%J~-%! ~-!j * ~2",
    "!_else~)%L~7!m32`#endif~(!*~(!+\x00~9'iint-ll64.h`~+&V~&&x~,'EINT_LL64_H~*%N~7!D`#~'%8 <asm~.(w>~.(xSEMBLY__~&%Itype~&!=signed__ char __s8;~)!Bun~&!B~(!?u8;~5!b",
    "short __s16~3!d~(!Bu16~6!fin~%!d32~3!d~&!?u32;~%&K~&!aGNUC__`__extension__ ~3%(long~&!(__s64;~7!V~)%<~,!Tu64;~'*6~E%)~E!s~-*T~E*_octl~-.E~-*2OCTL~9*P~'!A~3!!~)!",
    "TIOC_NRBITS\t8~.!9TYPE~'!;~/,+IOC~%-bBITS`# ~,!Y~(!:\t14~*&k~,!]DIR~3![~'!9\t~).+~0%tMASK\t((1 <<~,&/)-1)~2&1~1!Q~(&G~2!SSIZ~2!S~(&A~2!SDI~2%Z~'&7~%!Q~0&2SHIFT\t",
    "0~2%v~&!<(~,!K+~,&T~2%y~,!V~)!i+~.&[~1&(~,!Y~)!l+~.&d`~21l~%%YONE~/)%NONE\t0U~6)YWRIT~0!U~%!7\t1~7!VREAD~/!UREAD\t2U~5*1(dir,type,nr,size) \\`\t(((dir) ~,(f~%&e",
    ") | \\`\t ((type)~-*7~/!Enr) ~*!hN~0!g~&%;~,*I~&!E~0)rTYPECHECK(t) ~%!Zof(t))~3.P(~'&D)\t\t~%&W~)(2,~&&),(nr),0~-)QR(~-'!~+!_READ~-!_(~/%c~%!U)~-!uW~9!u~%)4~R!v",
    "~>%q|~[%)R_BAD~K&z~'(K~&!p~-%u~=!o~2%n~:!p~C%e|~F!|`~1/6(~%*=(~&+m>>~0,U&~-1h~330~5!g~+,x&~.3]~/!iN~6%PN~/%ON~4%NSIZ~6%N~*-b~(!g~(4W)~,-DIOC_IN\t\t~+(e~2/Z~-!RO",
    "UT~(!SREAD~?!RINOUT\t(~+%.|~)!b)~>!cSIZE_~&61~-&;~30F~1![~54g)~I<9s~:G]~%;vS~,<<~6!C~+Cklinux~(=>>~7<TTCGETS\t\t0x5401~+!:S~*!:2~/!:W~'!;3~/!;F~'!;4~.%-A~'!:5~.",
    "!S~(!:6~/!:~(%-7~/!;~(%-8~,!;BRK~'!:9~+!:XONC~'!:A~+!:FLSH~'!:B~*!:IOCEXCL~&!;C~-!;N~)!;D~-!;SCTTY~&!<E~-!<GPGRP~&!<F~.!V~)!<10~-!<OUTQ~&!;1~.!UTI~&&&12~.%1WINS",
    "Z~&!=3~.!V~+!=4~-!=MGET~&!;5~.!;BIS~&!;6~0!;C~&!;7~.!;S~(!o8~.%gSOFTCAR~&!?9~.%i~-!?~*(eFION~%<A~%!;~.(fINQ\t\t~(!E~-!=LINUX~&!W~.))CON~'&G~.!UGSERIA~&)E1~.)+S~",
    ",!>~.)-PKT~&(Q20~-&,BIO~'!;~.),NO~(*;2~.)-SET~&&a2~.)+G~)!;4~/,RP~'%0~.))~%,o~%!;~.(iC~)!;~0(iI~'%/9~//u2~%=tR('T', 0x2A, struct termios2)~//a~&!VW~)!VB~B!VW2~.",
    "!VC~B!VF~/!VD~<!VIOCGRS485~&&aE~)3m~%'R~%!=~.'h~+!QF~)T|~-/=TN~-'=30,~-Q?~.%MSPTLCK~-&,31,~2!LGDEV~.%&2~9%&CGETX~&*&3~/4S~(!:~/4RX~'3H34~/!;~'3|3~/',IG~.)H36~3&",
    ".VHANGU~&243~.+CGPKT~.&J8~4&s~)'D~*!L9~4!L~%4W~,!K40~6!vPEER\t_IO~)!L1~/!GISO7816~.!t2~)*pserial_iso7816~/)J~+!cW~*!d3~9!d~-0BCLE~&1o5~-0Z~%!:~&!;1~,!;ASYN~&4:5",
    "~00YRCONFIG~&!A~/5iERGWIL~&/V54~0!?S~*!?~.)sGLCKTRMIO~&3O5~.5uS~/!B7~1%DSTRUC~&6)58~1!BETLSR   ~%!C9~3!CMULTI~&!CA~1&/~-!CB`~.7LIWAI~'%H~.5vGICOUN~'!>D~.QxFIOQS",
    "IZ~+QC~(!5~%!S60~+Z?~.5|_DATA\t\t 0~1!<FLUSH~%86 1~6!A~&RN 2~1!BSTOP\t\t 4~3!<ART\t\t 8~1!=NO~&!Y~/:z~%%u~'!>3~2%8~%CC\t\t64`~0(8_TEMT\t0x01~DDxparam~:DwPARAM~9",
    "Dv~(!B~)!dHZ~)!NHZ 100~1UuEXEC_PAGE~&)3~'!Q~-!9\t4096~1!_NOGROUP~)!W~'!3\t\t(~%[%~/VUMAXHOSTNAMELEN~%'N~D'3osix_type~;H5POSIX~&Mp~:'?~-!H~?j/~0ZQ_kernel_long_t~",
    ")f3long\t\t~/!B~7fS~*!Ku~(!L~1ZV~(!Fino~+%5~0!_~/!L~;!omode~+!p~,9,\t~/!I~;!mpid~+!lint~+&r~%!?~<&Fpc~=!g~)!D~;!ku~-!g~6&A~%!H;~?!Ig~?%8suseconds~4(Q~&(P~+&6~+!",
    "R~;!|daddr~9'&~'!B~>'!32~E'&32~F'(~&!K~9%>old~/(D~.(6\t~2!N;~2!Og~2!O~A(Pold_dev~B&i~)!L~*!s~5/1size_t~%yF~0wq!= 64~?%6~&!f;~7)6s~>!Cptrdiff~&%w~.sD~8/R~0!x~0+O",
    "~:%K~9!N~-%V~.zd~0'Ufs~-)v~'Ae@`\tint\tval[2];`$~0!T~-(V~B%bo~&%[~,3v~/3Pl~/!G~:!rld_tim~G'.~0!M~,wK~+!G64~F!uclock~:*%timer~:!C~%!e~.-gchar *~,!H~(0G^6%!W~-0'1",
    "6~E!Mg~(!M~C:Zsocket~::USOCKET~9:P~)!C~1aj~-;b>~/:msockio~%!<~*<uSOL~'!w\t1~,!9_DEBUG\t1~,!6REUSEADDR\t2~,!:TYPE\t\t3~,!6ERROR\t4~-!wONTROUTE\t5~,!:BROADCAST\t6",
    "~,!:SNDBUF\t7~-%OCVBUF^+%!T~)!LFORCE~,Cy~)!R~'!=~-%pKEEPALIVE\t9~,!:OOBINLINE\t~+_tSO_NO_~%p9\t1~-'4PRIORITY\t1~-%GLINGER\t1~-%BBSDCOMPAT\t14~1(!PORT\t15~)*6SO_",
    "PASSCRED~-%?~'!7~,G'SO_PEER~&!:~0'TLOWAT\t1~0'W~'!:9~/!RTIMEO_OLD\t20~/!V~+!>1~2JRSO_SECURITY_AUTHENTICATION\t\t22~5!KENCRYPTION_TRANS~%')23~A!PNETWORK\t\t24~-%",
    "OBINDTODEVICE\t25~.%oATTACH_FILTER\t2~-'gDE~-!?~-'lGET~(!<\t~0!n`~0(UNAME\t\t28~.%JCCEPTCONN\t\t30~1!XSEC\t\t31~0)f~&!:~.&_MARK\t\t\t36~.!lROTOCOL\t\t3~-)gDOMAI",
    "N\t\t39~-!SRXQ_OVFL ~,!!4~.%kWIFI_STATUS\t\t4~+%oCM~-!?~.!O~/&VK_OFF\t\t42~.(_NOFCS\t\t43~-!9LOCK~)(;4~.&vSELECT_ERR_QUEUE\t45~.)|USY_POLL\t\t4~.'CMAX_PACING_RA",
    "TE\t47~.!_PF_EXTENSIONS\t4~.)7INCOMING_CPU\t\t49~4+&BPF\t\t50~3+!~%!=~0+3~4!j~)0/_CBPF\t51~=!HE~%!H2~-!pCNX_AD~%-%\t5~,(*CM_TIMESTAMPING_OP~%T;TS\t5~/+0EMINFO\t",
    "\t55~6'*NAPI_ID\t5~.(3COOKIE\t\t57~;%FPKT~%%,58~1-+~%QvS\t\t5~.(0ZEROCOPY\t\t6~.+sTXTIME\t\t6~.+n~(!:~)!F~30KIFINDEX\t6~.'g~)&%_OLD~(-=29~5!GNS~*!I35~5!G~%(9~'!",
    "H37~7%9NEW~(%963~8%9~)!I64~9%9~(!H6~.)5~)5V~+%8 66~55a~-!G~.&,~',=~*+TBPF 6~/)EREFER~+.a69~5.y_BUDGET\t7~.)PNETNS~)*u7~.=lBUF~%0K\t\t7~.)3RESERVE_MEM\t\t7~.1'TX",
    "REHASH\t\t74~0'<~&3z7~.'UPASSPIDFD\t\t7~1:<~(!<7~&LK~1L2== 64 || (~&!]d(__x86_64^1%IpILP32__^,%5F~,)O~&,A~,+h~7*E~.!M~&+n~8*M~.!P~'+w~5*W~%!N~,<B~4*Y~%!I~,<L~'M",
    "v~4%N^*%7l~%Ig) == ~'!5~/IA) ?~2.h:~1-e)~7'7~[%8~'/W:~3.V)~8(%~[%=~(0N:~4/N)~5(l~R%<~,)A~&%8~,0>)~4)T~R%3~,*+~&%3~,1+~2fR~-6K~+=e~,'-~6!QNS~5!QNS~97S~4!SING`~HN",
    "9~%Lo~<N:IOS~=N;~&!D~-t[SETOWN\t0x89^+%2]S^+%.c89^+%2aFIOG~+!V3~-!VG~*!V4~-!<AT~%2j~%!=5~.!W~)..~&!B6~3!B~'-7~%!D7~D'S~2kE~,'/~1k=~4!A`~/k8^3%W[>~7%Z~&R?cons~%S",
    "D~+%VLINUX_CONS~-S=~.!:^-%Jq^1%WS~*&0C(X,Y)\tX~+!6T(T,X~%!6~-3-_~)!Q(X##Y)~2!l~)!F~2!t((T)(X)~2-j_UL(x)\t\t(_AC(x, UL^,%CRUL~0!BL~,7A_BIT~&!g(_UL(1) << (x~,!i~%",
    "!F~)!G~-!H~,&VLIGN_KERNEL(x, a)\t\t~.!9_MASK(x, (_~%W*of__(x))(a) - ^,%Qw~6![mask)\t(((x) + (~%!2) & ~~~'!.~,%a~'!bDIV_ROUND_UP(n, d) (((n~%!gd~&%F / (d))~=*r^2",
    "%XA~&*V^1%X:~.!:~/Yc^*%>o~()B~4%;~&4,~3%<~'&O~1%=~)!;~1[Fsysinfo~.[B~--E~>-m~2z(~&%B~1yy~.!:~/&v~'!m~?%:~7x/~'%)~6x(~4!A~2',tddef^2%D>``#u~'5LFD_SET~-|J~,!8\t10",
    "24`~3iS~-x( fds_bits[~,!c / (8 *~(9klong))~/j-d_set;~+j!void (*~+lVghandler_t)(int)~,!R^&%f=~'!Okey~/g]~+xWq~%gW~0(v~.dv~=)!r~6-6PR~5-6~(!:~1(j~*%<~*/:PR_SET_PD",
    "EATHSIG ^+%,>PR~%Yr~+!?2~.!aGET_DUMPABLE   3~0%%~+!?4~2!aUN~%1O\t  5~0!_~*!>6^*%/(PR~(!;_NOPRINT\t1~5!BSIGBUS\t2`~2%DKEEPCAPS   7~0%E~+!?8~2!aFPEMU  9~0!Z~&!;10",
    "~-%Z~%!8~7%y~&!?SIGFPE\t2~5%8XC~,g8~*%8XC~%g9~-!t_EXC_SW_ENABLE\t0x80~4!FDIV\t\t0x01000~5!EOVF~%!E2~8!EUND~%!E4~8!ERES~%!E8~8!EIN~%%T~%%S~7%xSABLED\t~5!BNONRECO",
    "V~1'|~%!B^&%9p~5'FPRECISE\t3~3*<TIM~&E91~1,B~*!>4~-%%~&!;~%ZiISTICAL  0`~4!G~-GQ1~2.RNAME~%!>5~0%j~)!=6~2&.ENDIAN~,k>~'!v~'!<2~.'i~&!9_BIG\t\t~5!=LITTLE~/()~'!?",
    "PPC~(!D~3,.SECCOMP\t2~1,0~)!=~/!ZCAPBSET^&%ZP23~4!>DROP 2~30gTSC 2~10b~%!9~.0ZTSC~(->~/&RTSC_SIGSEGV\t~7&MUREBITS 27~3&P~)!A8^.%Y'~**aERSLACK~,_g~*+B~(!A~,l6PR_",
    "TASK_PERF_EVENTS~(-7~-lH~4!L~(&d32~1%bMCE_KILL~%u/ ~2!;_CLEAR   0~6!CSET ~',9~5!DLAT~%,!~7!fEARLY~%!f~5!CDEFAULT 2~5&/_GET 34~4(5MM\t\t35~-%!~&!:^&%?t_COD~1)x~'",
    "!EEND~'!C2~:!g^&%C'3~8!g~&!C4~:!gSTACK\t\t~;%uBRK\t\t6~4!D~%!=\t7~4!>ARG^(%CV8~8!DEND\t\t9~6&5V~(!e~/8;~+!E~%!f1~5'eAUXV\t\t~07f~(!cXE_FI~%.G~5'bMAP\t\t\t14~7!?",
    "_~%C5\t15~(Cm~'C2~%?;_mm_map @`\t__u64\tstart_code;~(!6end~.!4~&!Hdata~-!H~-!4~&!Hbrk~)!5~,!/~&!Bstac~*!7arg_~%!;~-!5end~+%4v~/!Fenv~-!F*auxv~&!132\tauxv_size~)",
    "!5exe_fd;`$;~51=PTRACER 0x59616d6~2),~'!G_ANY ((~-F|^.&&l~'!TCHILD_SUBREAPER\t36~02B~1!F7^8&+s~(8k~%_(_PRIVS~,z)~(8p~-!C9~3;'D_ADDRESS\t40~24FHP~)3V4~1EN~-!B2~1",
    "3KPX~'3m_MANAGEMENT  43~0!I~'!j~,!J~,z*~)B/_M~%1.4~1;V~*!>6~0>+MODE_FR\t\t^&&+j0)~7!EE~(!F1)~1:-_AMBIENT\t\t\t4~.0f~+!A_IS_SET~03E~,!FRAIS~13G~,!ELOWER~03G~,!E~",
    "%7,_ALL\t4~0*6VE~%'NVL\t~&|i ~4!?_ONEXEC~)&k8)~0!kG~)!k~/7uSVE_VL_LEN~%Wh\t\t0xffff~4!HINHERIT~)%57)~3<=PECULATION_CTRL\t\t^+%Z3~(<E~2!H3~/%hPEC_STORE_BYPASS~0A",
    "j~%!EINDIRECT_BRANCH~08CPEC_L1D^&%VB~%>C~1!CNOT_AFFECTED~5%2~%Oc\t\t\t(1UL~3+?~%!H~(=-~)!I1~3!I~)>&~(!I2~3!IFORCE~2!O3~:!w_NO~(*!~&!P4~/(kPA~%JQ~%NGYS\t\t5~.7(P",
    "AC_APIAKEY~:&e~'!IB~.!I1~4!ID~/!q2~5!I~/!q3~4!IG~/!q~0&U~%2RAGGE~&2w~(*x~10|~3!H~/F5~+!E~()K~+'0~.ApTE_TCF^&&6K\t0UL~5!B~%MF~8'P~(!IA~.!J2~6!J~&.r(~/%, |~1!q~4&",
    "!AG^'&(Z~/1Z~(!A~'%,~&0!~&%W~0!b~7''~'%&~3N:IO~&.LER\t\t57~0(d~-!B8~2!eSYSCALL_USER_DISPATCH\t5~/B-YS~)!?^&%5|0~;!DN~%%z~)!D~(%1~)!E^&%3V_ALLOW~,!p~8!MBLOCK~0&y",
    "PAC~'PB~%T/~'.H60~0!HG~2!H~0'oCHED_CORE\t\t\t6~/Cy~)!?_GET~1&v~*!BCREAT~2Hk~*!ESHARE_TO~1Ho~0!GFROM~0Hr~*!HMAX~1Hq~+!iCOPE_T^&%jF~:&(~,!K_^&%ex1~>!PPROCESS~'!Q~",
    "0_fSM~+9u6~/&7M~H9uM~+9u64`~1!l~B9uM~F9u~%HkDW~%)o~.LDMDWE_REFUSE_EXEC_GAIN~850~%!QNO~,%>~)1]~0.b~(%>6~1%YVM^&&1l3564d4~2FhVMA_ANON~%Yl\t\t0~1%*~'L70x4155585~2%",
    "2MEMORY_MERGE\t\t6~10T~/!D8~-!hRISCV_V~&GpONTROL\t^,%60~+!GG~,!G7~.+S~(!HVSTATE~%6P~(ST~0,)~4!O~%1Q1~C!KN~0.7~4!J~/*L4)~B!VCUR~&+N0x3~B!QNEXT~(!Rc~B!R~(,Q1f~=nu",
    "~(rp~1nvSTDDEF~2nw~)!;^-%d0always_inlin^,%&N~-!; _~'!,__^+%OR~)!kcplusplus~+!g~&RX_group_tag(TAG)\t\tTAG^1%'h~5!O^-%f7~3NO~.![(TAG, NAME, ATTRS, MEMBERS...) \\`",
    "\tunion @ \\`\t\t~(u[~(!H $~&!Y;~,!B~7%k~2!Z~%%G~%!b~'!4^+%+0~*'B~+&4DECL~%5hLEX_ARRAY(T, member)\t\\`\tT~'!0[0]^.&e%`~A!nYPE~&'.~%!o~)&g~-&t$ __empty_ ##~*&8\t",
    "TYPE~%!2[]~&&J^3%g5counted_by~+%Y~*!8(m)^>&fT^/%&<~2,?YSINFO~3,A~)!<~;w>^*%2h_LOAD~'?j16~(ZE~'%H~&Z?^-%8q uptim~&Wz^/%kYloads[3]~4!?totalram~4!?free~7!>shared~7",
    "!Abuffer~7!A~%%Aswap~8%B~)!?u16 procs~*!1ad~9!zhigh~8!z~)!?u32 mem_unit;`\t^&&i_f[20-2*^0%<x~'!h)-~)!<u32)]~&]!~;*G^8%*W^7%*Q^7&&I~+*>^5&lO^?%hP~*/H^'&onINT128_",
    "_^4&iS__int128 __s~&!*attribute__((al~%!M(16)))^3%ke~+!fu~C!f~.3M~)%zCHECKER^,%8S_bitwise\t~/!x~'!:))~14n~'!=^2%dK~)!>~%&m~(!K~+'3u16~*!< __le^,&oY~2!Db~0!D32~/",
    "!g^,&o]~2!Db~0!D64~/!g^,&n6~2!Db~%!D~;%tsum~>%uwsum;~55%~')0~'%D~&!)~5)R8^-&_)~)!]s~%!Vs~R!]be~&&de~R!al~&!Wl~A!a~4,?~*'9poll^,%t%~5/o^&%S!-~%.Q-gnu/^1&1Z^0%G|X",
    "86_BITSPERLONG^1%G|~2!D^/'!:^-%TD!~*!;^(%TE~*B.^0%U=64~(-S~8!F^*&|h^7%Es^1&zE^5%<h~5'=^(%>7~6%(^)%=g~I!qs~>!rs~H!s^(%=*~6!r^)%<W~E!q^/%<a ~(2Xi386__`#  ^8%8g_32",
    ".h>`# el~-)n~+)S~:!cx~*!d~%)[~:!N^&%K.# ~J,M~0!d^/%LzX86^-%>t^2')J~5!F~'!!^9''j^:&1p~<!O^(&1p~),a~0!n~3!6`^A&;r^,&2%~4%(~%!?~3!6~8-r^F%>c~5(b^)&)F~6%(~(!C>~I!s^",
    "&%V'~:!t^'&);~D!u~(,y~6!s~)&k~4?gatalk~.3[~&?NATALK_H~-<C~0!=~:G2~.A.byteorder^4%Jb~*'c~/97ATPORT_FIRST^+&+t~'!:^'%j)D\t1^+&]-~'!?LAST\t2^+&PPAT~%k*ANYNET\t(~%;",
    "4)0~4!CODE~%!D8~5!CPORT  ~7!DBCAS~&%,8)2~+m,DDP_MAXSZ\t587~0!9HOP^&%_T1^,%kkIOC~%(9DIFADDR^'%_D(SIOCPROTOPRIVATE +~%mF~'K5~%)K_addr~&K8be16\ts_ne^'%)a8\ts_node~",
    "&G+~(Knockaddr_at~-Krsa_family_t sat~'!0~(!p\t ~%!8port;~)Or~+%Psat~%!,~'I%~(!Tzero[8]~-%Q~&!Znetrange~&%Tu8\tnr_phas~&MB~%&Fnr_first~(&L~(!8la~'!7~?IZ~)+_/litt",
    "le_endian~3IoBYTEORDER^'%=6^(%=I~1J)~:!M~-.*~+!>~-.(~+!; 123^)'2W~7!c_BITFIE^+%nt~:!E~1=1^0%RA~D/B~'!Wwab~-Rl__constant_htonl(x) ((~&G<)_~+!Bswab32((x~.Cr~)!Dnt",
    "oh~%!e~4!Y~'!w^.%]y~.%Js~*%J16~1%J16~>%Js~4%J16~)!w~8%Jcpu_to~%F)~(%Ple64)(~%HA~9![le64_to_cpu~(![~%!S~(!e~A%=32~*%=32)~'R]~:%=32~0%=~&!Zl~<()~)%=16~*%=16)~'3l~",
    ":%=16~0%=~&!Zl~D'ub~+'ube64~1)J64~:)Jb~.(*~4!b~)(<b~D(<b~+(<~R,Ub~.(J~6,[~'(]b~D(]b~+(]~R,kb~.(l~6,q~')&~5,x~N,o~P,f~N,Z~P,Q~N,H~P,>~9,5~7,+~1+z~G+p~9+g~7+Z~1+Q",
    "~G+G~9+=~7+3~1+*~;*x`static~3q!~'U|~++7p(~%+v~'XC*p)`@`\treturn ~(*q*p;`$~:%!u~)W*~'%t~*!|~%%?~1%!u~C!|le~%Zd~+,0~+&!32~4&!32~B&!~%!|~+,W~,&!~4%!u~C!|le~%_.~+-)",
    "~+&!16~4&!16~B&!~%!|~+-P~,&!~4%!u~C!|b~-*&b~C*&~-.9p(p)~D*0b~4*0b~2*0~*%&~&*: *)~?%/b~-*<b~C*<~-/=~C&:~&e/~4*Gb~2*G~*%&~&*Q~E&:~,*Sb~C*S~-0B~C&:~&gk~4*_b~2*_~*%",
    "&~&*j~)&:~57m~%BMdo @ (void)(x); $ while (0~77u~L!Z~+/p~N%;~))+~U%;16~N%;~)(,~S%;b~('o~(-!s(~/6Ib~/'b~9!M~+--~+!M32~3!y~.'E~9!M~++l~+!M16~3!y~.'*~/!M~=OZfanotif",
    "y~3OKFANOTIFY~2O;~+!=^<%y(~(!ZFAN_ACCES^&%r/~&!!1~-!CMODIFY~+!C2~.!eTTRIB~+!C4~-!CCLOSE^''XW~*!H8~3!HNO~&!J~(!I^+&aSFAN_OPEN~*!i2~.!AMOVED^&%>)~)!G4~4!GTO~*!E8~",
    ".!E^(%?a~'!C10~.!CDELE~+!C2~5!C_SELF~)!H40~2%S~.!F80~2&d_^&%=l~&!F1000~.)-Q_OVERFLOW~(!H40~/!mFS^'&gV~'!E8~1!l~%%7PER~('W^'%y>~1*A~,!H2~1!H~)&)~&!K~%!J^&%yG~-!K",
    "EVENT_ON^&%aU^)%yK~0!KRE^'%=(^'%yJ~1&/NDI~%&O4~)!C~2*u\t\t(~/+N |~2+;)~1(n~'!]~**w~'![~(*e)~2%<~,)&~1-hNON^&%Ia~,-j~0!jASS_~%/5~+!J0~3!HCONTENT~:.>ASS_PRE~2!M8~",
    "0/vLL~'!SBITS~('T~)%X~)'T~+%F^&'dd\t\t\t~6%;)~.%0UNLIMITED^'&b+~7/U~*!KMARKS~8/b^'%ejAUDIT~,/c~0*h~%hi^&&Ru~7/h~'!HTID~9/l~'!GF~+!G2~6!GDIR~%!K~7/r~'!J~(,R~5/t~",
    "(%cAR^&&jBD~,/|~4%iD~'/[~&!K2~2-.~(%oFID~&%K(~2&-~')c~+%t)~>!l~'%t (~4!A~**F   ~/'n~.%9~*&f)~3+lINIT_FLAG~)+l~%.7~'!j~(.%~.+c~.,M~'!O~/+U |~+!U~/+J~0%XMARK_ADD~",
    ":9FARK_RE~&0c~79K~%!HDONT_FO^&%V?~6/8~%!LONLYDIR~-/3~1!IIGNOR~%&/SK~99;~,!MSURV~(;J~89IARK^(%gp~+-a~2!HEVICT^'&4B~)->~8%K~-94~4!J~%s.~82w~%!GMOUNT\t~80j~&&2ILES",
    "YSTEM~,/N~-uf~/%k~%'9~'5p~*!9~(5q~7'f~4,)~''b~),)~(*a~-+=~+*R~2!;~+*F~2!A~'*:~2!<~%'=~2!:~,*F~:!B~+&P~2!I~%*/~4&j~%;IS~&0(~&<L~'!d~*C[~+!4~%:F~+!3OPEN)~2(kALL~%",
    "<n~-%-~)=|~'!g~)1)~+=r~4%uOUTGOING~'!t~&(i~+&6|~/0b~,%I~,!?~*AA~.3A~&G>METADATA_VERSION\t3~)w:~(HD_event_metadata~'wD32 ~&!;len~'xg vers~(!/reserved^)%FT~(!g~)!",
    "U^,%;Gmas^&&(hs32 fd~)!.pi^'&'_~2AdINF^&'.A~&8f1~=!G~*6r2~B!L^+'/;~4!G~&:s4~=!H~&8]5`~>&3OLD~+%l10~>!RNEW~,!R2^+&.-~/))info_heade^'%&bu8 ~%!7type~((w^(%K>u16 ~%",
    "(i$^*%AI~;%&fid @^)%&H~;%Ihdr^,%L-^&';M fsid~&%7\t^.(8a^&&N=[]~*%X~;%2pidf~P%W~'+!^(&.c~;!_error~S%,~%![^)%N]~%!1^&%TV~-(-~00iRESPONSE~&)k^'%u3~;!F~%Cv_RULE\t1~",
    "2&Brespons^'%*K~+.&u32 ~(!A~6'(~(!B~5*l~B*g~>!uaudit_rule~4(*~5%J~((-~%&4ule_numbe~*!7subj_trust~)!6o~*!5~%(E~/43~&>G~.0ZDEN~%=2~/UR~'H2~/;4INFO\t0x2~0<>NOFD\t-",
    "~0Lv~&0Z~(!D~./d~&!?-2~50S~)4xLEN^)&qO~>4y))~4!pNEXT(meta, len) ((~%!*-= ~%!9)->~)5P,~*F4~?%:*)(((~%/8*)~&!n) +~+!e~0%)~6%nOK~+%l\t(^&&[/~&%r>= ~&!2~7'9&&~'%=~'",
    "!Y~0%A~f!h<~(!h(~(&;~:a.if_ether^+(J?~./v~.aCIF_ETHER~2aC~+!=~<aC~,0vETH_ALEN^+'CqETH_TLEN~+9!ETH_HLEN^,'AWETH_Z~%!a0~-!7~('L\t150~.!=FRAME~'!>~/!pFCS~%!<4~.%mM",
    "IN_MTU\t68~.!:AX~%!:0xFFFFU~2&NP_LOOP~%FJ~/%qP_PU~%!<20~3!<A~%SI2~+/l~&!>TSN\t0x22F~0!XERSPAN2~%!AEB~/!AIP~'[.~/!;X25~&!<5~/!<AR~'!V~)(d\t~&!<BPQ~%!<FF~0%2EEE~'",
    "&Ma~1%7~'!A~&&Qa~1&QBATMAN\t0x43~1%ZDEC^'%?P0x60~1%)DNA_DL~)!C1~3!CRC~)!C2~4!CT~)!C3~0):AT~,%L4~0!eIAG~+!C~0&5CUST~+!C~.,[P_SCA~,%,7~0)lEB\t0x655~.+IP_RARP~(!]8",
    "03~1)9TALK\t0x809~0*1A~&)V80F~0&h8021Q\t0x810~6+/\t0x88BE~1+.X~%!Y3~0&8IPV6\t0x86DD~0,bAUSE~%!u0~0&US~&8k88^+(4C~&!=WCC~%&483E~0.9MPLS_UC~%!B47~4!AM~'!A~0%>ATMM",
    "POA~&!Ac~0%zPP_DIS~&!b63~3!BSES~&!A~0*BLINK_CTL~&!Bc~2%FFA~%na8884~10dPA~'!>~0(>PROFINET~%!B9~0,LREALTE~%)z89~0'iAO~&!|A~0!Z~%51C~%.t88A4~3*?AD~&!?8~2!?_EX1~&*B",
    "~0+ZPREAUTH~%!AC~1,[IP~&((CA~0'cLD~&)hCC~0)G~&,:8E~0(]MACSE~&!vE5~4&:~&%UE~1*DV~'!yF~0!Z1588~&!=~0!XNCSI~&!=~0'4P~(!t~0.LCFM^0'05~&!<FC~&(j9~10IIB~'!=1~0%mTDL~%",
    "+I90~0..F~%5q891~3)B2~%(|91~0&JHSR~%!<2~05WNS~%']94F~38[BACK\t0x9~24nQINQ1\t0x91~5!>2\t0x92~5!>3\t0x93~21WDSA\t0xDAD~0*TDSA~)2;DADB~3!CA5PSW\t0xE~26MIFE\t0xED3~",
    "0.<AF_IUCV~%4:FBFB`~3,z3_MIN\t0x06~(a1~4!I~'v*~0%/~':X~27pALL~&!<~35%_2~'v.~03gNA~&=E~29sDC^'':y~%!C~0+8WAN_PPP~(!C7~32i~&!f~%!C~0,rLOCALTALK~&!C~01JC~%6h000C~2",
    "!<~(poD~2!>X~'''~13+PP~'8d~-f%~'-?R~+'H1~0(BMOBITEX~&!A~1;0^'&8K~%!A~1.aRDA~&!=~0'DECO~&4h001~0'AHDLC~&!=~14eRC~)!Z~3,O~&!<~0,ITRAILE~&l<1~0'xPH~)%X~12LIEEE8021",
    "54~%(yF~0&ZCAIF~&!a~0&ZX~(%_~12oM~'+CF9~1,wMCT~'!?A~2I|_UAPI_DE~%IbHDR~*I|~0!=~%aa^*&1t~3!b~'Nyethh^&%aX~-Z-\th_dest[~(JC];~2!Esource~-!G^'%]h\th_proto^&'/n^-%y",
    "Epacked^-&(u~>MBfddi~8MA~6MEFDDI~5MD~'!<~?MC~)QADDI_K~&ME~+MF~'!:8022~'M:~1!?SNAP~&!?^+&zX~,!]Z~'!]~5!_Z~'!_~5!aD~%MM475~5!b~(!B0~0!BLLC~&%'^,'o7~+!?~%!>449~1&*",
    "OUI~&!A3~1'CFC_K~'xe^(&B!80~9!G^&&VI~=!GA~(!H0~4!HA^,&Kj4~9!F48~>!D16~9%1FORMAT~)%33~;!HFUTU~&w%~<!JIMPLEMENTOR~&].~9!NLL~%&x1~=%j^(&lg~8&;~'4l~)&<0f~5)2VOID\t~",
    "9',NO~%etTRICTED_TOKEN~8)6~3!LC~4!LSMT~%<*\t0x41~8!DAX~%!DF~3!DMAC~(!gC1~8!D~&!gC~4!g~%+0~%,o~'!m50~=!JDE^'(NM~>!s~&%B5~4%B~0%AD0~=!I~&!qD7~3!I~+*s~'?v60~A!KAX\t",
    "0x6F~6)1ERVED~(%k70~=!I~&%k7F~0*wEXTENDED_SAP\t\t0xAA~.!DUI_CM~'+<3~+p,ddi~&2S1_~'7___u8\tds^(&B&8\ts~+!/ctrl~=7*~3%)2~J%)_1~-!12~L%9snap~L&=~&!/oui[~.49~+9u~%e",
    "D~&nt~I%V~,%Pfc~(%5daddr[~+8P]~)%k~4!=^'&OE^*&LJ~/(|\tllc~'!2;~4!I2~.!I2~0!I~('R~%!Gsn~%'B$~&p?~=&g~><Xslip^4)6<~'<.SLIP~,<E~.!:~(!;\t\tSL^&&|YSLIP~+u4~*!<C~&!=",
    "~*1T~)!=KISS\t~+gJ~%!XOPT_SIXBIT\t~*i/~)!=ADAPTIVE\t\t^/'8DSIOCS^*(/T(SIOCDEV^'&'2)~-!LG~9!L+1~.!NSOUTFILL~1!L^*(cT\t~%!y~8!L3~/!wLEAS~2%F4~/!u~6!J5^?%P_kd^4'UP",
    "D~2Bi~&!7~<Bc~(!UGIO_FO~%9q4B~+3oP~-!;1~2!UX~&!=B~1!V~'!<C~(.dconsolefontdesc~-G?^&&7,char^'%!y~4!>heigh^)&P!*char^&'3Q^,%-r~(%NRE^&'<J~%%TD~.&2C~&JQ4B7~.&g~*!;",
    "~+&gK~&*IND~%!=~+WnKDMKTONE~%!;^,'?aKDGETLE~&!U^+'?NKDS~+!;~*T<\tLED_SC^&%OF1~.!:NU^&%Nm~/!RC~&7004~-%FKBTYP~'%c~*E]\tKB_84~0%,KB_101~0%+KB_OTH~&OT3~,%+ADD^&(q=",
    "4B^+(iSKDDEL~)!;~*GdKDENABIO~&!;6~,!TIS~*!<7`~.'DMOD~'&9~)9d\t\tKD_TEXT~.Ay~%!:GRAPHICS~-&V~)!U0~-&W~)!:1~&&W~-)+~*%H~+Z4KDMAPDIS~&*=3~*RgKDUN~-!>D`^.(Djscrnmap",
    "^+&>F\t\tE_TABSZ\t\t2^+(fkGIO_SCRN~(+O4~.+j~-!>1~-!ZUNI~'!B~',i9~-!a~1!CA`~0!f~(%(6^)&a0unipair~3.wuni^''>B~/!<fontpos~%.a~*!mmap~7/lentry_c^+&6k~(%E*entrie~&!r",
    "~/&G~)&&7~3!=CLR~&!A8~.%Rinit~3%Radvised_hash^''>]~<!Ftep~>!Flevel~.1eUNI_^('3]ASE 0xF~,g&~+!CMAS~%a71FF~+9ZK_R^&)+a~-,v_XL^(%aI~,,s_MEDIUMRAW~0,v_UNIC~&,_~*,w\t",
    "\t^'(;=~%0s~-0r~)-44~,!<S~,!<5~-%yMETAB^&%U6~-%/ESCPREFIX~4%4ETA~&).2~/%4~)!<3~-%4SCROLLLO~%jv~.&yNUM~(!;~-&wCAPS~(!<~)%O\t~%%O~(4d6~,!;S~+!;5~)D*kb~%,0~1[V kb_",
    "table;~3!<index~2*_kb_value~,,d~%&=ORMTAB~1)nSHIFT~'!<~-&rAL~(!:2~/!:~,!W3~/6Q~&Rg4B46~.(H~)!;7~+&us~:&vfunc~4&ustring[512]~-/G~%%MS~)%58~.%N~*!<9~+%Odiacr @`^(",
    "()[~.%<~%!B, base, result~,1]~'!fs~4!gin~%(]cn~+1_~(%>~'!+[256~3&=DIAC^'&Gy~%&*A~.&D~0!CB~0&Ju~.3Bint~I&D~%!a~M&Fuc~*!-~<&JUC~(&*F~4&J~+!C~,&Jkeycode~1&Jscancod",
    "e, ~'!F~0%FETKEYC~)1&C~.<9~-!?D~-<WIG^&(MQ~&!?E~,(-_repea^((be delay;~&!/period;`~-5%KDKBDRE^)(1v0x4B5^,%><KDFONTO~'CM2`~/E[_font_op~1'%o~-6aint flags~0!8width,",
    " ~)Ek~-!A~5FI~&F5~&F1`^,%E(~,%e~1%b~h%7~*':~%GG_OP^&'N=0~4!=G^''NX~5!X^)'/p2~4!E^&(IH3~8!cT^&'NL~6%D~&!B5~2&(FLAG^&%ZiRECALC \t1~'PH~:MTmoun^&&[<~-MVMOUN^3(1;~(",
    "!:~?nE~++3MS_RDONLY^,))MMS_NOSUID^,))D~%!8DEV^,))>~%!7EXEC^,))9M~&kLHRONOUS~,o-MS_RE~%%w^,(b5MS_MAND~%9Y6~-%+DIR~%ku^,&YT~&%oYM^'%h&~,EY~%!>ATIM^'(('~.&5IR~&!>2",
    "04~-!uBIND\t^')()~+%eO~%UD19~-%|REC\t\t1638~-%,VERBOSE\t327^,'87MS_SILE~%&l76~-%DPOSIXACL\t(1<<^,)4dMS_UNBINDABLE~&!B7~-!B~'T?~&!>8~-!>SLAV~'!<9~.!<HARED~%!=20~",
    "-!=REL~&'<~%!?1~-!?KERN~&)+~%!A2~-!AI^)%_|~%!A3~.%?~%kw~+%(4~-!CLAZY~*!?5)~.+iSUB~%%F~%3C~%!F~.'GNOREMOTE~%*[~%!D~.'INOSEC~&!<~.'GBORN\t~&!<~.'GAC~%[8(1<<3~.'GN",
    "OUSER~&!=1)~1-kM~'r>(~)-x|~.-+|~+,b|~,'a^'%fZ~+'4~1%-MGC_VAL 0xC0ED^-%mR~'!BM~%HKffff^'&'F~*!gOPEN_TREE_CLONE~,3=~-!>~%/CO~(!-~.%SOVE~'1/F_SYMLINK^6&0l~-!NAUTO~",
    "%!/S^5%sO~-!PEMPTY_PATH^5&1.~+!PT~3%R~+uC~-!N~4%R2~7!P~4%R4~5!PSET^''Jd^4&!w~+!MBENE~,!w2~6!K~*vk0000377~-(QFS~%)&^4&+N~.!KPICK^>&+x~&!G~''j_NO^0%wv2~0!ONO~*'n~",
    "4(n~'!K~+'f^-&+W``enum fsconfig_command @`\tFS^&)Br~%'xFLAG\t= 0,~/!;STRING\t= 1~0!=BINARY\t= 2~0!=~%%V= 3~4!;~&&!\t= 4~0!BFD\t\t= 5~,!:CMD^(&6T= 6~0!=RE~&!0URE",
    " = 7~6!__EXCL = 8,^(%fH~*'d~&*&~A)V~&!JATTR~(;2~5.Q~)!I~';C~5.J~+!IDEV~6.B~+!H~%%k^3&;N~+!I_~&5k~(!I~+fw~,&3~(7?^3%||~-%A~.!J1~5!J~,76~5/Y~,&d~(<)^3&0L~+!MID^(%",
    "6h1~;%p~*=V0x^'&9P0^,%nK~%B;~%t-^)'|2 attr^&(Ah~,!4clr~)!4propagation~)!7userns^*'y5~4'-IZE_VER0^)(-6~*!!~'%cstat~%%g^*%wb^,'zE __spare1~)%G^)%w1~%!Ob_dev_maj^+",
    "%n|~(!8ino~*&=sb_magic~,!J~(JZ~&!4fs^+%s|64 mnt_id~-!2pare~+!932~'!I_ol~.!6~)!M~*!=~'!jattr~.!|~3(.~%!;eer^&'MD~-!:maste~2(pe_from~-%Troot~.%hoin~*)g~'(,2[50]~(",
    "q4str^,%u1~+*e~&&Ireq~7)&~%!s~8'fparam~0*RNT_ID_REQ~+*R2^.(18STAT~'8aB_BASI~-1cU~3!LMNT~1!M2~4!MPROPAGAT^''e>~*1D~8%%ROO^+&0+08~8!LPOI^.&0U~4!MFS^')1=~*0OU~-&yL",
    "SM~*%Cf~/!!~=N+nfs^*%'3~/N0NF^3'I[~&!8^D'OyNFS_PROGRAM\t~%1e3~.!>ORT\t2049~-!9RDMA~(!>~0!?MAXDATA~.K_~'!<PAT^&%AC~,Lo~'!?NAMLEN\t^,'+T~'!=^'(zM~+NqNFS_FHSIZ^-)4",
    "+NF^((tn~%!=~.%1FIFO_DEV^')Q:~*!=^&(**MT\t017~-4h~(!?DIR\t^(&Ja~0!?CHR\t^0&KL~(!?BLK\t006~5!?REG\t~06,~(!?LNK\t01~6!|S~%j.1~6%_FIFO\t~'7/~.)d~%,G~')h~&)i5~1!D~(",
    "MJ~+HI~'!>3^,&1i~-*IIP~%'GNAME \"nfs\"~*6E ~%Asnfs_st~&_FNFS_OK ~&A_NFSERR^&&4h~&AU~'!5NOENT ~&AN~'!6IO ~&?h~(!GX~%!56~*!5EAGAIN = 1~+!qACCES = 13~+!MXIST = 17~",
    "*!7XDEV = 18~,%U~'!79~,!7TDIR = 2~+&;IS~'!7~+%HINVAL = 2~+&>FBIG = 2~+%GNOSPC = 2~+%HROFS = 3~+%1~%G( = 3~+%1OPNOTSUPP = 4~,'AAMETOO^&(|q 63~-&8~%Dx = 6~+'cDQUO",
    "T = 6~+&gSTAL~%DM~+%U~&RH = 7~+%VWFLUSH = 9~+!eBADHAND~%!i1000~-)ZT~%QF~'!=2~-!Y~'/A~'!?~.&5~'&i10004~*!<TOOSMALL~'!=~+'.SERVER~%br~'!A6~-%;TYP~(%8~+(gJUKEBOX~'",
    "!<~+(lSAM~(!S~+&hDENIED~&!;1~+'SEXPIR~)!<~+'&LOCK~)!;~+'!GRAC~'%/~,,-FH~.!q~+&y~%YY~.%Q~+'%WRONGSE~'(:1~+&zCLID_INUS~(%>~+'%RESOUR~)%Y~+'&MOV~)%6~-->FILE~,)o~,-",
    "HMINOR~%0n_MISMATCH~'!I1~/+B_CLIENTI~'%2~,-h~&!DSTATE~)!C~+'JOLD~/!A4~.+*~.!A5~/!AEQ~)!>6~/,(~))t~,/7LOCK_RANG~(!?~,*OY~(/.10029~-(*TOREF~''%~,/dLEASE~,(1~,/mAT",
    "TR~--)3~+'?NO~,*d3~+':RECLAIM_BA~(!|4~2!ACONFLIC~'-L3~/'?XDR~'!<6~.&|S_HEL~(%&~+'?OPENMOD~(%a8~-!vOWNE~(!w~.0ZCHA~'!<40~-!<N~)(R41~.%n~+(Q42~/(p~-'U4~,*RP_ILLEG",
    "A~'0_4~+'9DEA~%b,~'!=~+'1FILE~%&V~'!>~+'3ADMIN_REVO~)/W4~+'6CB~&UPDOW~(!d~)T7~)9Sftyp~%w[NFNON~)9SREG~)9M~'7?~%!/BL~%6=~%!/CHR ~&VRNFL~%+K~'&2~&&D~&&!~&*+~&%iFI",
    "FO = 8^A'DZpatchkey^0%cP^1(tGTCHKEY_H^)(AJ`#^&&B<\"~*!j^('VTd directly\"^2'ts~0!x~0Ek~+!=`^-'WT^('FL>^0'aKBYTE_ORDER^&'X[f ~,!7 == __BIG^)'Ev   ^)'a9~(%=(id) (0",
    "xfd00|id~%!pel~5!r^/'Fp~:!u(id<<8)|0x00f~(!z^&'Z,  ~''hcould not determine byte order\"~%!X^C*bf~')Lc^5%hv~((N~'(2C^,%hi~,!7~1J6pci_reg~-vC~)!aPCI_DEVFN(slot, f",
    "unc)\t(((~%!3) & 0x1f)^&(Bc | ((~%!F~%!;07^+&yDPCI_SLOT(devfn^&*Fz~&!. >> 3~)!q~-!UFUNC~+!U~'!T~'%+~.%yIOC_BASE\t\t('P' << 24 | 'C~%!/16 | 'I~%!/8)~0!]^'%c?LER\t",
    "(~+!r | 0x00~1!SMMAP_IS_IO~3!S1~9!SMEM~3!T2~1!TWRITE_COMBINE~3!V3)~A*K~')O~2*P~5*SREGS~5*X~'!<~2*<CFG_SPACE~%Uo~-zX~.!CEX^'(_V~%z2~1!oSTD_HEADE~&_:OF^,%!+~(!ENU",
    "M_BARS\t~.%4VENDOR_^(&o-~0,4ICE~(!?2~.%pOMMA^((u]~)!=~,!>_^&%J>1~6!A^&(8/\t0x2~7!DASTER\t0x~7%,SPEC^&*AZ8~7%NNVALID^&&4h~+fy~-!IVGA_PALETTE ^-%lp~-!JPARITY^.%o%",
    "~-!E^'*1:8~7!CSERR~%%U~7!DFAST_^'&.M2~8!IINT^)([s 0x4~,Qv~&)g^&)[Q0x^+&*4~+!=_IMM_READY^.%P7~-!GNTERRUP~%r!8~5!GCAP_LIST~3((~'!F66MHZ\t~2'y~'!CUDF\t~3'v~'!B~,'2",
    "8~6!G~)(e~1'|~'!EDEVS^')8,\t0x6~>!JFAS~(_|~=!tEDIUM~4(w~.!LS^''+A4~7!KSIG^(&uOABOR~&*e~6!OREC~0!O10~;!P~&-e~)!P20~;%S^&&p(^)&yD4~:'%TECTE~+-2^.'-M~%,!LASS_REVI~",
    "%Xj~-*i~&36~&!=~(1'8~3!ePROG~%!A9~3!A~&1j\t0x0a~/%JACHE_LIN~'4!0x0c~-!ELATENCY^&(yx\t0x0d~-!C~'3o~)f]e~.'+~+!C^)%%>7f~:!HNORMAL^,%:8~1!GBRIDG^-%+'~1!GCARD^&)1|~",
    ":%_F~%'u8~/(_BI~',O~/%wBIS^&(xj~(-C~5!E^'(un~2.y~&!fAP^*)0p~38bBASE^((nN_0~.0Q~1!D1\t0x14~:!D2\t0x18~:!D3\t0x1c~:!D4~.1a~1!D5\t0x2~/7?~-!E~%:e\t~33c~2!J_IO~G!L~",
    ")90~0.G~-!PMEM~++I~25]~6!Q32~J%'1M~.;g~;!O64~3;x~1!OPREFETCH~36r~1!P~%&Q(~~0x0fUL)~;!QIO~+!P3UL)~1A.~&-V_CI~%922~.*ZSUB~'2q~*?&0x2c~7!I~&!Be~.2BOM~(%a^/&.)~0!C^",
    "*):?~+*1~0!H~)&J7ffU)~0&HPABILITY~(:F34~/&n~);0~%3%\t0x3c~7!DPIN\t0x3~.2xMIN_G~&v'3~.&fMAX_LA~&!=f~/%EPRIMARY_B~&=G~/.qSECOND~(!D0x19~0(1ORDINATE~(!Ea~0!g~15/1b",
    "~.&RO~'K6~1/zIO_LIMI~%&31d~.(rIO~&Xp~.-|fUL~<!K16~3-u~.!G~&.A1~7!G~<,bIO_1K~1!L3~,!L~('9~*Bi1~/)(~%0v~)'7~/2n~'!B~&';0x2~//k~'!C~/'> ~4'>~-!O~7&Q~&*IEF~-%h~-46~",
    "0!F~)%l~/2[~%!H~E%j~0!M~53)~0!I~&2M1~9!I~A&[~%1vUPPER~%%>~/1E~%!G~%&U~,!Hc~4,F~&!E~%+;30~5,M~,!F2~/.g~+1'1\t0x38~/:j~%=D^+&LB3~/>g~(!ETL~*Bj~18E~*!H~'KZ~16c~*!F",
    "I^&&J>4~9!EVGA~46K~*!E~1EP~9!NB~%F-^&*qQ4~:!K~/J7~/4EB~34H14~1!I~+._0x1~/TEB~-3H~13G~%%3RD~)3h9~1%,~A3ICB~A3HCB~,.N~&A[c~7!F~&+-0~20b~/!l1~2/A~0!l1~2-+CB~),b0~2",
    "-%~,!B_HI~2:I~&!E~*%v30~:!C~&!h32~8%1~%-C4~9!B~'!f6~9%0~'..~9!C~'!ha~/TNB~466~&>F~/!r~B/'~+!H~</*~.!K~%/-~3/.~.!JISA~5ZeB~0/5~3/6~.!I~?/9~.!QCB~9/;~.!M16BIT_IN~",
    "5YR~.'>~'Db_MEM0 ~4Yd~9!S1 ~4Yn~.!SOST~&eQS~/Tx~*/F~3DJ4~;!L~&RN4~1,;LEGACY^&&;E~(;i44~2e;~'Z'~&!o~/&7AP_ID_PM~4KO~'!AAGP~5*K~&!BVP~&TD3~5!BSLOT~%&]~1*g~&!DMSI~",
    "%!e5~5!BCHSWP~3Kj~(&1C^&&&+7~5!BHT~5+f~'&1NDR~.V4~,!BDB~&VSA~6%iCRC\t0x^++0E~-&qHP~%!BC~6!BSV~&'6D~8(>3\t0x^+&gL~-!dEC^'%PCF~5!DEXP\t~4fq~)(>X\t0x1~6)hSATA\t0x1",
    "~6)h^&+4-1~6)gE~%0'1~7)dAX\t\t~-!Q~6+wNEX^,(J'~(!?^&'OS\t2~1!<~'lu^/)CSCI_PM_PMC\t~0X_PM~%![VER^+'U67~5!HPME_C^(&+h0~0*p~'!I^(&PI^(&mx~0(I~'!KD~',g02~6!DAUX_POW",
    "~&]n1C~7!l^'&<60~7!C2~&5(~7!CP^''b(8~:!D~(':F~<!HD0~A!mD1~5f!~,!F2~5er~,!F3hot~5ek~-!Icold~(ef~8!J^'(w!1~0*K^&)?!4~2!]TRL~%BU~*OG0~02f~(!KNO_SOFT~)8/~6*TTRL~%%Z",
    "~+U:~4&+TRL^&'9%~+l?1e~>!NCALE~+lo0~:%M~)E*~-'U~(-[PB^,*Me~0MX~&!EB2_B3~3:pPM_BPCC^.)q9~.%/~%&(REGI~%uf7~0!C~(/N8~0/NAGP^*%H92~1!>RFU^,&%T~(!:~(RS~/)]~*!>_RQ~('",
    "_^&%p/~0'd~+!OSBA~5.R~+!G64^'&:7~1/j~+!IF^&%a!1~:!FRATE~%Pk004~=!I~&Qa~0:x~/!I1\t^/'&5~(!H~)|P8~2!g~(wS~''H ~<'H~)xs~;'I~(!HAGP~5-&~,!H~>'q~)ym~:'r~)&8~='s~,!J~",
    ":'t~,!J~9'u~(,:12~0,;VP^&)M!~17k~(!<~(+W7fff~7!F~%:X~1/4VP^+)k5~/9MVPD~(%g~1.%SID_ES~2%d~'!;_NSLOT~%PLf~6!EFIC~2OWS~%B=ASSIS_NR^/)z!CI_MSI~(;T~2D1~)!A~+3Q0~0Dx~",
    "*!IQ~*4ue~9!H~(vB^,%n2~/!H~*+?8~9!HMASK~'!J1~/(UMSI~41XMSI~)inLO~.F9~0!D~%O]~/yFMSI~&3a32\t~6!BMASK~(!Bc~1!BPENDING~&a610~6%+64~7!e~%%+~&!B~3!c~(%+~%aq14~2)gX~2",
    "BA~/!>~*(q7FF~9!IMASK^&'4!~2<;~+!K~+7Q~2(tX_^&'tj~069~*!>_B^,'w-7~9!KOFF~&;q^'%fj~1(jX_PBA~14+~(!<~C%6PBA~E%4~&&tB^'+r+~0%2~109~%!A~'0:12~4),ENTRY^()t46~8!DLOWE",
    "R~&2R0x0~8!J~%f1~(!J4~8!J~&2=^,%5Z~/!EVECTO^')_40xc~3'U~&!L^))GxB^+(-0^&&!C~-'/HSWP_C~33'~&!=DHA~5RJ~%!AEIM~5RI~%!APIE~5Xk~%!ALOO~5Px~'!a~4w.~'%CX^5%(p~&!AINS^(",
    "%*8~/?iF_LENGTH~1?gF^&&f1~/EZ~&!:_TP~4&|~'!AFLR^3%<PAF~6G*~'!;~%!Z~1y=AF~)B)5~1![~'>F^&'7Z~2OMAF~(,G6~0&uEA_NUM_ENT~1)_~*!>~(:L3f~0!cFIRST~%!e4~9!>~'[4~0/eEA_E^",
    ",&5F7~1!CBEI~*!Df0~2&5SEC~%lU~)Dy~1!EUB~.!E~/2q~+!G~&L0^,(8i~,%X_BAR0~-[U~/!A5~-(n~-!A~&'%~,I[~,!CENI\t~+Ho~-!?ROM~%Hr~5!AVF~'%h9~<!D5\t^,'e.~.%-~'T%\t\t15~1(PP",
    "^)&7e~-'_~)'a~'!C~&Ex~2%/P^&*l|~/w<~-!B~)d|~0-s~*!JIO\t~00s~*!AVF^1%.+3~:!L~01G~*!D~'f2~(!H5~>!H~-%?6~;!P^&%Hy07`~8'&~*(S0xfd~6'&~.!Ie~4!IUNAVAIL~&;=~--3~(!HWRI",
    "^((4L40~4K+EA~(<I~'<J00~2-X~&h/~1/qMAX~(:e~,,,~'!BIS~(?q^0&6k~*0ZELD~*/'~%!!c~020X^&'1i~/!e~%!9_DPERR_~6F>~&!FER^((NF~5!hREAD_51~'Km0~9!G1K~5La~+!F2~6aM~+!F4~'!",
    "Fc~4!FMAX~%!J~(!G~4!HSPL~'tH~8&'~&!F2~5O3~,!F3~5P!~,!F~&OR3~;!F8~%!F4~;!F~'(*5~<!G^&%1*6~<&'2~5K1~*'b~%!K~;!H~'Xa(x^(*c9>> 12) & 3)~/+B~7XWX^+%KhFN~*8)f~7!K^&%&",
    ".~63|X~2XS^/(S.~.!K133^&%P*^1(S2~.!LSPL^('im0^0&,Q~.!NUN~%']~',2~;!MCOMPL^('V<0~;!M~-,A6~A!N~))/38~A!OCUM\t0x1c00~?&y^&%.f20~=!M2^(%T%4~>!L5~((G~53GX_ECC~&Fd8~1",
    "AdPC~)J1_V0~A!E1\t24~>!F2\t~6!_~23_~'7eS~',G~13%S~3+O~8!H~-+L~8!IFREQ~%)Fc0~8!GVERS~%HQ0~:!G~6me~+!E~6md~*!E~-)V~8!I~-)S~7'e~&'d~1t2~%xE^*%&F     4~3!F^)%dx~%!F",
    "~2GkXP~:[+~)!A~('[00^0%Q+~*!G^''41~%Fi~/<XXP^'(?PND^&&>p~&u+~8!KLE^&*L;~%!J1~8!JROOT_^&)DS ~,QM~/!KUPSTREAM~&!u5~8!KDOWN~&!M  0x6~8!KP^)%8G  0x7~;!K^(%V8 ~,Rw~0",
    "&>C~*&g9~<!IC~&!Ha~8(PSLOT~5iO~*!GIRQ\t0x3e~0A9XP_DEV^*'9f~1!f~&!B_PAYLOAD~:Lw~+!OHANT^+&FW18~9!OEXT_TAG\t^3&R4~0!OL0~(8R01c~;!K~(>!0e0~:!JATN_BU~(Vt~2/t~/!OIN~",
    "(&x2~<!OPWR~+!O4~<!ORBE~(]T8~A!zVA~%9V3fc0~A!OSC~%!O~58-~+!OFL^&'(Y^+(lM~4*ATL~4XU~*!B_CER~6F5~+!HNF~)!I2~9!I~*!H4~9!HUR~(!H~:%dRELAX_EN^5%*G~+!L~,,Re~B!K_128B ",
    "~4F/~3!P256~&!P2~C!P512~&!P4~D%T024~&!Q6~D%U04~'&-8~C!Q409~'&.a~:!Q~+/11~<'-~*0/2~;!KAUX_P^&&_k4~;!KNOSNOOP~')Q8~;!NREAD~%2q70~B!J~&)O~A)P~'!P~%)O ~4<Q~2!P~%)O ",
    "~4<]~3%T~')O3~E%T~')N4~D!P~()M5~<!PBCR~%07~3=l~'!JS~&jK0a~5!kSTA_CED~<0.STA_NF~(!H2~9!H~)!G4~9!GURD~<0+STA_AUXPD\t~;0(STA_TRP~'5,~/yx~&7uP~';'~%>>~+F_12~1'ILNK~",
    "(9uc~2%>~&!B_SL~)8E~5A*~*!K_2_5G~(1A~6(%~+!Q5_0~,!Q2~=!Q8~.!Q3~=!Q16~.!R4~=!R32~.!R5~=!R64~.!R6~9!RML^)&v'3f0~9!KASPM~)(4c0~>!M_L0S~(%L4~B!P1~(0Q~61S~'!PL0SE~'Q",
    "f0~61V~(!M1~(!L38~<!LCLKPM~9S4~,'|DERC~9S4~+!MDLLLA~'!O10~=!OLBN~&!L2~>!LPN^4%5T~,!I~&=%1~7!jTL~%(8C^5%<)~/!I~*)51~?!L~()12~9!LRCB~91!~'!GL~:0y~(!lL\t~8;u~'!FCC",
    "C\t~8;l~'!GES\t~8;0~(!lLKREQ~'9510~:!MHAWD~9:W~(&RBMI~::U~(!IAB~&!I8~6)U~'6K1~6(3~%6KL~:P(~*!G~,2y1~=!M~+2u~=%E~,2q3~=!M~,2m4~=!N~,2i5~=!N~,2e6~9!NN~&2a~82Z~'!G",
    "_X1~<+X~)!J2~<+]~)!J4~<+b~)!J8~<+f~(!J~%xn ~:'[LT\t~8B=~'!FSLC\t~8A6~'!G~%26\t~8A/~(%9B~%6.4~=!HAB^5%Gt~(<(~3<%2~2,|SLT~'<%1~3&x~&!B_ABP\t~<;M~'!KPCP\t~<;G~'!KM",
    "RLS~+!M~;%GI~+!K8~:%G~+!K~4++~'!KHPS~=T6~)!K^*'.f4~:!KSPL^('/]7f8~=!L~'%G1~69T~'!LE~(&A20~<!KNCCS~=:%~(';S~&8Sf8~58SSLT~(8S~7(+TL_ABP~:RU~'!HPFD~:RT~'!HMRLSC~:R",
    "V~(!qDC~:RV~'!HCC~&5M~9)jTL_HP~'!H2~:!HAI~&)gc~;!GT~&Xz~'0I6~C!MON^(%Zn4~D%&BLINK~9Qp~1%+FF~'%+~;&.P~&&R30~;!G~&[!~'&'~9:e~/!R~&&' ~8:o~0%+~%&' ~A%Z~&=/4~?!x~'&",
    "!~((-~A!R~&%K~'!R~<%+E~&'T8~;!GDL~',:1~<%GA~'w0^'%+,2~<!PIBPD~+!P4~7.y~(=wa~5!p~%Oe~(4w1~9!GPFD~<.wSTA~&.w~<.v~%!oDC~<.u~%<gC~<.s~(%9S~<.t~&%9S\t~;-qSTA_EI~:DK~",
    "'!G~%)5\t^3%Me~%RX~)3-~3R-~%!A_SECE~:3-~(!HNFE~:3.~(!I~)!H4~8!HPMEI~:3,~&!HCRSSV~13-~+!H~';Ve~5!hAP_CRSV~''c^/%?W~&!H~'+G~4(q~%!A_PME_RQ_ID~'.bf^1%Vm~-!P^9%)D~+",
    "!J^&%OS~,90^4&Ip~([4AP2\t^3&Gv~+!C_COMP_TMOUT_DIS~=<S~(!WARI\t~Dok2_ATOMIC_^&,Fr~<<b~/!UCOMP^'%/500~:fp~/!V^&&7d0^/'RF~<!V128~(!W2~<!WLT^))_n~:f.AP2_OBFF^+%ly~=",
    "oi~(!RSG~=>2~-!QWAKE~=U9~(!REE_^*(%x~0Tl~,!QTL2^/&Hv~0!C~'*NIMEO~(tCf~A!Q~-+&~:o<~+*z2~<!I~'*v^&%*S~;n5~)!OEGRESS^&+.3~?mg2_IDO_~&SY~?m:~&!OCMP~'!O~;m>~%*c_^')k",
    "4~;m?~**0A~&%!~<kA~*!QB~&!Q4~C!QWAKE~&!Q6~:jD~&*.a~5Lh~4gm2 ^1&7i~*[o~&!t~9gp2~%gq~)/gfe~=!M~&Uu\t~CgC2~*gt\t~Cfm2~*gu~=M+~,!R~&V,~=3Y~,!S~&V1~=3b~,!S~&V6~=3_~(",
    "!SCROSSLINK~43&~.Zy2^4%XG~+!C_T~)(cf~=!I~%(]T\t~>c1~&!N5_0~(!N2~>!N8~*!N3~>!N~%(PT\t~;ZY~)!O~%(L~'!O5~>!O~%(H~'!O6~:!OENTER~%2h~?dt2_TX_MARG^&(yT3~:d32_HASD\t~4",
    "rF~*Wg~&)<~9aK2_FL^&&TD04~IX02^2&Bx~*R[~&%?~9Vh2~%H-~4X5~.HU~&!n8~7HH~&!Ba~1>LT^'&3-(^&)J?)\t\t~'!-^&'(x~'A0)~5!ZVER~+![~(!]>> 16^&')c~7!]NEXT~)!_~,!]20~'!]fc)~",
    "8&!^'%Cy~1'.~)!DV~%GI2~8!CD~%V|03~8!DPW~%%.4~8!DRC~&ld5~:!EI~%bs06~:!F^&'h_7~8!EMF~&&A8~:&c9\t^1&qs~-%1R~%2cA~9!h^'&=MB~8!ECA^/&<j~/!DA~&[BD~9!DRI\t^-&<m~0!DT~%",
    "!gF~8!DSRIOV^2%uf~,'M~(!F~9*5MCA^&&R_~9*8P~%%y1~9*8AMD_XXX^2&pF~,(?EBAR\t0x1~9*=DPA^2&Sr~+!DTPH\t0x1~9*:LTR^2&T:~,'TECPCI^2&T?~,&hMU~%&B~9*<PA^&-GY1~9*=D~%f21~9",
    ")uL1~%S=1~9)vPTM\t0x1~9)vDV^&):P2~9(fDLF\t0x2~9(<PL_16G^/&cC~2!H32GT  0x2~9'5DO~%Y.~9&GMAX\t~2!W~62>DSN^+%xj~4!F~%,+~06t 4^1%nbRR_UNCOR^*&9s~1;,~&!G_UND~:n*~'!H",
    "DL~;lY~'!HSURPDN~:AA~'!KPOISON_T~)!y~3_E~'!OF~)oJ2~9!H~)LQ~'!N4~>!N^(&Ta0^6%Cq~)':X~*=;~5UQ~'!MRX_OV^(%Dn2~:!LMALF~*&r4~:!MEC^<%+[~)%rSUP^:%+V~'!JACSV^:%+S~'!II",
    "NT~&)24~;!IMCB~(&78~<%ATOME^(%>j~:!KTLPP^&%Dn2^4%,v~),<~(T[8~9,aE~'(Oc~2!F~--)~4,5COR_RCVR~=-*C^&-of~+,0~3IJ~+!LDL~+!M8~8%FEP_RO^()AS~4Xt~+!M^)'0D~9-YCOR_ADV_NF",
    "AT~=-aCOR^&&zJNAL~=-_COR_LOG~+,a08~4)&~+)!^0&k[~%!C~'d.8~3%1AP_FEP^&%ixx^2'Ia~-!MECRC_GENC~=1:~,!NE~>),~(!NCHKC~>)-~+!NE~9O!RR^('3*LOG^2&lM^&'k0OT^)&ET~3T0~)!GM",
    "D~%()EN~=+r~)!PNONFATAL~-!U2~;!U~2!R4~6&(~)-o30~8!v~&-t\t~C&%MULTI~)!T~B%|~&/h~.%*4~=%*~*!V~9V7~(!U^&&-K~%'.~=8h~%!Q~)(2~,%*2~8!R~*!O~=+W~%!PAER_IRQ\t\t0xf8~73=",
    "~%!MERR_S~%6O^1'.FVC_^&-!WAP1~3;zVC~%!=_EVC~*,m^0%]z~(!ILP~-!K^0%u:~(!KARB^)'>]0^/%Co~/%f2\t^2%XK~&!n2_32_PH^'&j_~6*8~(!N64~1!N~5&f2_128~1!O~7%OARB^((lU^5%Ai~)&",
    "B^&&;_^0%K7~,!C^&+U[^-*:7~0T,~(!S~*B'e~6!w^(&71~?!tRES~)4>~2)&~'!B~*(6~;(5~(!P~)(8~;(7~(!P~*(:~;(9~1!Q_T~:c]~+!T256~/%,2~:!Q~D)F~%!OTRL^4%7X~+!C~1)E~3C<~,!S~%-5",
    "ELEC~':]e~>!S^''JM7~4?]~,!L^?&0<~'!O~*>ta~5!r~A*u~3!PNEGO~5.j~(_nV^&'_Q~(KF~2Sy~'!IPER_VC~(!K~&B8~-!LPWR_DSR\t~2YI~%!=^'&GY~0+)~(!?~%%U~-<|f~0<|~)!OSCALE^-&+M8^",
    "/&+L~.!TPM_SUB~-!U1~%_!7~<!VTATE^&*y>~(!X3~=%5TYP~.%h15~=%3RAIL~.!T8~/!T~(!S^7%YL~'!>^'-.W~+'g1~6c5PWR~*)>1~0P_RCEC_RCIEP_BITMAP^/&8(~%!DBUSN^1&PT~)!=_REG_~'DP2",
    "~8!H~%dk~1);~3)r~*!WLAS~.!W~)ezf)~09|ND~(BR^1&1L~+!?_ID~/+D~1%O~,!RREV~6%P~;!XLE^.&3P~*gKf)^2'otHT_3BI~'Um~&GvE0~,!BCAPTYPE^'(e>0^,&CL~+!BHO^&'T320~-%*5~/%*^+)c",
    "8~+!d~'>P8~5%)REMAPPING_40\t0xA~?!I64 0x^+)w6~+!IUNITID_CLU~%T;9~5!qEXTCONF\t0x9~5&'^&&]'~%%;\t0x^+)wi HT^:&dE~,!?^*&Zd1~7!EFIXED^.'kC~(!DIX^',8d~*4=0FEE~%!+ULL",
    "~1!UADDR_LO~/3T~/!B~)(uFF~/75~,!LHI~/4*~+'=^')1G^(%1>B~5(.VC^&&[7B~5!jERR~%QRTRY^.)Wn~+!HGEN3\t^.)Tq~+!B^&'0D~1,B^,.at\t28~7!BSHORT\t2~0FbARI_^7&)c~'!>~)nW~19P~",
    "(!E~'m(~1?x~(!DNFN~A1|~)!S~'=k~0yE~(!?~?%_~%=X~<%aTRL_FG~-%a4~36X~(5lARI^,&o*~-&)TS~9'd~&!>_QD~AThAT^&&<|QDEP\t~0zL~(!nPAGE^&-*.E^5%qd~%!L~8'cT~.?r^4'(t~)!HSTU~",
    "D&*IN_STU~8i8ATS~8'ZP~,)c~/'[~(!?^<&q;~)!H^+')b2~1%1^:'t[~*!B_RF~9%1~'!FUPRGI~5*w~+!ISTOPP~&(l~1_S~+!K~(q(~1]&PR^&'ZdREQ^3&q%PRI_ALLO^)%7zc~6=p~*,'^.,qWCI~&%J~8",
    ",*~)!A_^*(gO2~8!GPRIV^5%-E~*!GWIDT~%uF^0&a!~'!G~7,&~*!B~=*(~+!J~?&)TRL~5&*~-'_~%!O~7,,~%zU~8'a~)!A_VFM~9J*~*!JINTR~).1>> 2~/D;~'!N~('E8~5!oTRL_VF~6'B~-!GM~5'A~+",
    "!GINTR~5)H~+!HMS^6%LH~+!G^'%&k^0%LF~&!F~*Toa~4!h~'-F~)&(1~3!jINITIAL_VF~2-(~&!FTOT~)!De~3!DNUM~&!B~5%vFUNC_^'%8p~/2V~&!EVF^*&v'^/%'0~)!ESTRIDE^2%&g~)!ED~%0*^0'h",
    ";~&',UP_PG~']-1~4&_SYS~*!F2~4&ABAR^4%Mz~*''^3(1b~(%o~%=:3c~4!aVFM_BI~*,8~2Mq~*!L~&'L~&O(~%!O~~~:!PUA\t^-&I+~.!BMI^2(2H~+!BO^2(2F~*!BAV^&,DH~3/t~''w~%/t 0x4^/'|:",
    "LTR~%4i^&&71L~%q;4~5!F^(&7V~&!H~/2PLTR_VALU^,'>?003^0%T:LTR^.'<k~%0q^1&+z~*!K^''?x~3!D~(%b~%%F\t0x03^0&mZ~0!N~%!y^4&WV~,'W~%%K~7?8C~:?8CS_S~(j<1~2!?TB^6&gHACS_^",
    "''XN0~4!|C~(!?8~2!?U^'+1y~0'EACS_^()&(2~3!?D^'(1a^/'U>~%![^'%O&I^&%585~2'&~28W~/!cCTL_V~3|jVSEC_HD~3SG~'!<_LEN~')r2~0VQS^''BO^2&dY~)!=~)L9~8!D^'.!+~,!F~)!E~-Iy8",
    "~9!D~%Jc~1=SREBA~'Y_~/%p~)!=~%!h~&B20FFFFF0~4!i~%(/8~5!jTRL_BAR_IDX^:&|k~+!PNBAR~-.i0E0~>!Q~&(N5~=%N~+pG1F00~>!P^1'!0PCI_DPA~5'R~'!;_SUB^-'LB^/%6xDPA~-eu~1(cTPH",
    "~5%/~'!;_LOC^5(;=~)!IL^)/%ox0~9!ECAP^0(;/~-!D^''X:^0%J)~(%US^)'*907~&TH~8!K^),K3~0!D~,',0xc^4%faP~&%|~3hX~(!C~%ZU~&0z~/-i~+!h_R^)'0B^7%]Q~'!L^&%6LE^*%.A4~;!QSW_",
    "TRIGG~&dE^6%]JPC_RP_PIO_LOG~)+TF0~;%&DL^()Ck^'%tD~6'>TL\t~4H/~+!D_EN^,%%,1~=!M^(%%.\t^8%T?~(!PINT^(%_n0~03X~(!L~+Nq8~6!q~(p-~''k^)%xY1~E!S_RSN\t^3*Ns~?!W^&%(r^;",
    "&Ot~6!ZNFE~)%;2~J!Z~&!Y^9&7u~7!ZIN_EXT~E&T^*(Jw^3*Q>~0+XBUSY\t\t^8'bn~;%c~(%_6~K!W~&,v~(5t~J![~/.(2~>.(FEP~(&L~%Q]~6+aOUR^'(T? 0x0A~6!J~'!y~',6 ^3%PC~-!L~%3,\t ",
    "^3%O;~.!vEVERITY~%!N4~=!NYS~%ew~%!N8~<!NEXCEPTION~%!O~=%y^+%6? ~1Jz~/!PIMP^&--F~&!Q3~=!Q^&%?|FIX_LOG ^3%0<PTM~45C~,!?~)Y<~5T+~*!IS^:%.r~)!I^.)5g~3%?GRANULARITY~",
    ",=;FF~0XFT^('g4~4|p~'!A^+%'>~;&8~%aM~.%l^0'J1L1S~9H.~(!?_PCIPM_L1_2~9%?~2!P1~9']~)!P^'&MS_2~:'e~1!P1^:%2V~)!PL1_PM_S^6)S8~.!OCM^((yO^,%M2^2'-S~*&]^'&3K~)LX0003~",
    "3M-~1!T~)Ma0^3&<T~&!STL1~4)x~)!A~K(_~-!Q~A(aTL1~+(b~>(a~,!P1~?(aTL1~%!z~.G6^0%m[~,!PSS~/!Pf~8!P~O)7~%%-TR_L12_TH~ARE~4!W~()qe^4%1h~(!V2^4%+E~)!A_T~3*j0^2%qu~3!U",
    "~**k~%&e~1I]~&OR~%4O~%*q~0Ig~,!D_V^C%)C~.!U^I%)E~.!Z^=%)G~8&92\t^2(k8~-!D^'%+X~0&9~/'7LF~82cDLF_EXCHANGE~.sM~%)V~/7*^&%b(_LE^(%?=~0<R~/!F_DSP_TX_P~%r.^.)aT0^0(*",
    "o~0!cU~;!cF0~M!c~&LA~09QDOE~9'=~&!>~%GOSU~'9w~51>~,!NMSG^)*Am~&.Ze~2%A~7l_~(!?^'%_>~?%A~'l=~%IC~92Y~)!NG^&'NV^5%<wDOE~,Ilc~2!j^*'?|Y~?%j~*FQ~,!z~9%o~'!S~&AX~:91",
    "~+!ODATA_OBJECT^)(q)~9&R^)+xX1~2!?^'-8|~0CM~()M~)R[18~3*c~,%V~'Br~%1!~(&>^-&>&~=!Y^*)Q_~/4]~;!Z2^)'ax~&:W^')Qm~;!_DIS~%yv_3_^&.L0~*3tf~D!_SP_3~N&[~+![^*.W,~H&d~",
    "+!cNEXT~'&,^+%Hg^=)(%pp-com^,*Wp^+)2xNET_PPP^&%j_^+)2v~/!;^.%:9CCP_CONFREQ^+(6T~(!9ACK^+'BhCCP_TERMREQ~+aZ~(!9ACK~+q[CC~%GDET~%%(4~2!;ACK^)-e=~,!AMAX_O~%Jo~(*3^",
    "0-n1~&%pDE(dp~%6Tdp)[0])~-!DID~,!B1~/!B~&%(~(!F~%!G2]^&).q + ~%!33~/!WHDR^&*se~.%XOPT~*%]~6%[OPT~,%A~6%eOPT_MIN~%%2~0&nI_BSD~%)=^&(gT^+*wBCILEN~.!C3~+!bBSD_NBIT",
    "S~.:-1F)~-!G^+'QP^)%&R5~.!GCURRE^+)Tz1~-!BMAKE_OPT(v, n~%<Fv) << 5) | (^-+Og~%!SIN~&nP^+'eY~&!nX~'!;~1*EI_DEF^&*I9^+%y6~*!:_DRAFT^,'Ky~&'C~)!Z~+)7~(!WMI^&%xI~+%",
    "V~)!>A^&'L>^,'fg~)!?ETHOD_VAL~+lA~(!ASIZE~''s^*%7y+^,)6%~.!n~-B70F~3!K~((.w~%(+(w) - 8~%(1~%%)~2%i~2!kCHK_SEQUENCE\t0~1(-MPPE^+.K9~%!!~+Uv~&'t~2!I6~1!pPREDICTOR",
    "_1^,(zp~&!h~,!A2~6!Z2\t~-!=~.!Z2~%-H~>3U_defs~/3U^9)fi~(3rPPP_DEFS_H^+,pK~,!8~,&ePP~)0>4~-!8FCS^.+T3PPP_MRU\t^&+S]~-!:^'(,+(~%0B(__u8 *)(p)~.0s~&5CNTROL~3!N1~/!",
    "N~(7t~'!O~-!P~,2k~-!<3]^-*0)\t~%%pLLSTATI^&/Tr~*9J~%!AU^&%GN3~-!8FLAG\t0x7e~-!9ESCAPE\t0x7d~-!;TRA~%%)20~1(,I~%EO~+2n~%%c~%X4^,.)j~%!N~%<(2b~-%*VJC^(&'G2d~1!=UN",
    "~(!?f~.)!~%%F^,(ucP^)+ND^,-]J~':-FR~%&mfb~1!=^.'nu~&%*^(+Mw0281~2!>M~'!>3~/%L^&+Nt0~1'1~(!;~1'4~(!<b~1&A~'!=~0&EC~(&D80~0&FC~%'780~3&H~'!t~/!=L~&!Vc~0&+PA~(!;~.",
    "&]LQR~'!;5~.%JH~%wPc2~/!TCB~%%Hc029`~2*cNITFCS^)-X]~+!>GOOD~'!>0b^(0))^--8b\t\text_accm[8]^&)yHenum NPm^&*O(    NPMODE_PASS,~,!4DROP~-!4~%I;~-!5QUEUE^()zN^(.(Ep",
    "pstat\t~&%,~&%W~%2Giscards;`~/!<ibytes;~0!9octect~2!;packe~3!;error~2!:lqr~2%Co~5%Co~7%Co~7%Co~6%Co~&%C^+*Nhvj^')pA~*!Mvjs_~3%&vjs_compressed~0!=searche~1!Vmiss",
    "~2!9un~*!qin~:%5~2!?~%&T~2!:to~&%h^-*QCmp~1&Xunc_~1(4unc~4&pcomp~2!Q~%!9~3!Ri~4%)i~,%)~+)m~';bin^(+y9~0!=~%!q_out~'*Ldouble\tratio~-&eppp_stat^(*]x~/,qp;~,!9~&)",
    "p\tvj~1!j~%&R~3!o~('p\tc;~5!:d^.+|M~+!yidl~(/N^3/<y xmit~%!H;~9!Grecv~'!G~/&)idle32~)%-s32~2!ws32~?!i64~*!i64~3!i64~0!i~;?Kquota^<+GN~0P:^&)SrQUOTA~+?E~-!9^D*+!",
    "_^&)vq~(It__\t\"dquot_6.6.0\"~*!MMAX~%%%S^+.QzUSR~%!7 ^+/[UGRP~'!7~+79RJ~'!7^..1QINITQFNAMES^&-[M\"user\",~0Ey  ~%!Agroup~4!B\\`\t\"project~2!C~%%&n~&%Bd\", \\~",
    "++J~(%YSUBCMDMAS^&'*Q~,W7~&!>~%cp^+*WfQCMD(cmd, ^&04n (((cmd~%I/~+!V~%MH^'059&~+%5~,MZQ^&)z.^&%'.8~.a-Q~&)JON~)!?2~1!?FF~(!?~*(pQ_GETFMT~*!|4~.!?INFO~)!?5~,%]~/",
    "!?6~.!]~&)G~'!?7~.!]~-!?8~.!]NEX~.!D^++Sr\tQFMT_VF^&.pD1~2!:V0^+*]e~%!9OCFS2~*+d~+!O1^*'?F~&!9SHMEM 5~,)qQIF_DQBLKSIZE~%Qm ~+cO~-!B ^&-o!~2!V~&H!~&=f@`\tQIF_BLI",
    "MITS_B^')p1QIF^')FNB~'!1I~(!F~(!3NODE~*!2BTIM~+!Q~(!1^,*g2~+%7\t~*%n~)%J)~-!M~%%M~+!K~'%_~.!II~1!uI~6!u~&&(~,!L~'&9~.!K~%&A~,%o~&&C~/!s~/!II~4!I~(%l~+&a |~,%u~.",
    "!SUSAGE~&!R~%&h~(!P~%%y~.!OTIME~(%(TIM~)!O^&*Yc~,!NALL\t~&!M~-%Q~%%;~'!/~%!t^*-?aif_dqblk^**I)dqb_bhardlimi^**CD~%!:soft~2!:curspace~-!8i~6!ji~9!jinodes~.%?^)-k",
    "I~)!f~*!532~%!5vali~.?Rif_next~|&S~|&S~7&S~+!5i^3.JGIIF_BGRACE~+XpIIF_I~&!82~-!8^&%|i4~-!7~&*a~*!o |~+!g~'!0~%!])~*0uDQF^'&FvQUASH~)0yDQF_SYS^&*&XB = 16,`~&!:^'",
    "*jG^.*Hw~/!o~'.<~1%-)~.!V~(%1~+!S~*%E~/,_^*-rW~&(=i_bgr~.)Si_i~+!6~%(?i^/*O=dqi~,+>~,5*~%>UNL_NOWARN~+=H~)!=IHARD~%!A1~3!ASOFTLONG~%!E2~7!E~%!A3~2!AB~)%*4~3!A~-",
    "%*5~7!E~%!A6~7&1BELOW^+.o,~.%i~&!B8~7%j~&!B9~7%G~&!B10~+8%~(!DC_UNSPEC,~-!7WARNING,`\t__~+!:MAX,^,+()~.!> (~0!Q^&/(d~2%EA~3%EA_QTYPE~.!6EXCESS_ID~.!:~*%r~+!8DEV",
    "_MAJOR~3!:IN~0!:CAUSED~1%)PAD~.&tA~:&tA~1&tA~+&t~<Hyrseq^3+M?RSEQ^2*-i~'!9~Cgt^;-XN~&(Wrseq_cpu_id~%N=e @`\t~%%.CPU_ID_UN^'%pQIZED\t\t= -1,~.!F^&)&yR~%ei_FAIL~'",
    "!L2~&>!~*%6~%/[~)%/FLAG_UN^()'c =~'A-0)~0!]cs~&!b_b^&+A-~&%MS~&!iNO_RE^&.e!O~%kmEMPT_BIT^'*jm~;!QSIGNAL~'!P1~>!PMIGRATE~'!Q2~8%v~G%r\t=`\t\t(1U << ~G&I)~E&F~H%&",
    "~*&v)~F&s~H%&~+'J~')B~,TY~''N @`~(5fversion;~)!4~+6-64 ^&.eOip~'!D64 post_commit_off^-*gqbo~'!Q$^8-vY4^*/-X~%!X))^&+_h~0%x @~-SI~'%o~*-Rrt;~/So~-!G;~6T;~'%|~''-",
    ";~8!G~*'-~.!8node~-%,~'!;mm_c~(!:^&*e'end[]~S'.~;2!^3/qK~&1h^2/qD~/!;~,;>_K_SS_MAX~&|Q28^C-pc^+-dU^.,_]~*!F^(-e:stora^&-cg^1+h,@`\t\t^5-eV\tss^)-eU`\t\t~&'k__da",
    "ta[~-&* -~('[~.&&)~%kq\t\t$;`\t\tvoid *^',i*;`\t$^.+N+SOCK^'/qL^&/V]1~.!>^&/qM~&!>2~/![~(!<^&)2B(~0!r |~1!j)~/!i^(/WI^*+95^+*cJ~/!F^+/+y~5!E^'.Qi\t1~?*eundcard~",
    ":_h^*/r:UNDCAR^,+eF~,!7~+!V~,!B~(_E~%y208~+XPOPEN_~&!H^&)Ph`^=0[n^7*Dq~-%A~'%_ADLIB^,%(1~(!<SB^,%'i~(!9PAS^-/xn~'!:G^.(]|~(!:MPU401^,(q|~*%-16^,(qt~,!;MIDI^,/y%",
    "~'!>UART685^,(W;~+%O16^,%01~)%QSS\t^-/xO~(&CS^&-q0^-/xT~(%S^&%%8^-/xX~*![_MPU~'!b3~6!D~)%*4~7%*~%%i1~2';TRXPRO^-))f~.!>_SB^-/xj~.!AMPU^-/xq~('*AD16\t^-/xt~,!=~%",
    "![2~2'JCS4232^-%6Y~.!>~&!_~2'LMAUI\t^-/xN~)'EEUDO~%'!24~4)CPNP\t\t25~5*!~%*v26~/.D_SIOWR^.*MRIOWR) &&^+/eXAIX) || (^).22sun^..2Dsparc^0.2W~%!8^3.2qNC~%.Hh~0!<Ly",
    "nx__)~+gQ\tSIOCPAR^'*(<~,!0~-!G^&,.F~(!,~.!>OUT\t~'!+~.!<IN\t~%!<IN~0!;~(!W~%!-~*8ES^(0m+\t^)0m5~/!ADIR~&!?D^+)24~&!>NON~'!]^&1&*~-!AREAD\t^+1%9~-!A^&%JX^,1&5~'",
    "&)_SIO\t\t_IO~-!5R~%!6R~-!7W~%!7W~.!7~&!MWR^/.O&~6(O0x1^+%)P~+(I^*&VV~2(K^2(iM~*(N^2(iA~,(R(~'!/|~(!s~+*?_SIO(x,y)\t((int)(~)%_|(x<<8)|y^**Pj~&':(x,y,t~.!UOUT|(",
    "^*1&|&~-&o)<<16)~8!wW~4!wIN~M!v~/(b~6!x~W%v~+,,^'%>n>>16~0!e~2,=~%!Qx^&%[?~'(r)~4,IS~0.D~,,IS~/.G~-,H~'&S^3*X<~+2>TL_SEQ^'&Q7~%'G  ('Q', ~+%b~+!M^&,>j~-!M1~2!MY",
    "NTH^&,wq~((F~%!N^+0aqynth_info~5%5CTRL~%LS~-!f3^/0cR~+!UGETOUT^&0ZI~&+_~'%p4~=!XIN~3!W5~:!WPERC^&/.P~%%k~'!U6~6!UFM^&&x7INSTR~.!V7~*'0bi_instrume~7%ETEST~%=V~-!",
    "j8~:%y~%)MSAMPLES~.!Y9~:!YNR~%)5S~-'310~<!UMIDI~/!T1~6!TMIDI~2*;1~**;midi~:*:THRESHOLD~-&J1~8*;~%+VMEMAVL~.%?4~9)(4OP^)%xH~,%2~<*7ANIC~--9^,+V;~+!MOUTOFBAN~/&98",
    "~**/eq^'-&Xrec~8,.~%uc~-(?9~<'&ID\t~-&|20~F.X~%!c^).p/~,!g1~/!gcontrol~7!j^&-B4~&+]~-!n~*)vremove_sample)^1/cJ~-%5`^)+jIvno^(+<&~%P04000];`$~-!S;~1!u~-%<~0!uint",
    " bank~)!0~%.pno;`$~.!_~2%'~-):~%RK^.+hearr^&.:*~.!N;~14lTMR~%y'^&)7>~('ZT', ~7..TMR^(*M|~(+[T', 2~7!MOP\t~.!M3~5!MCONTINUE~.!P4~5!PTEMPO~.&'5~;&'OURC~/&W~)3t\t~",
    "'!TTM^+'Fa^-%ld~,!FEX~1!F2`#\t~,!GMODE~%1V^-&(W~2!GF^/-OE~2!FC^+(aJ4~5!FSMPT^5+LJ~+'%METRONOM~+1>T~&6D~9'X^&'2X~-!S~(6/~.[F^;*wo~/T,^**ww>^)/nL~:!e`# ^l*w0AFMT_",
    "S16_NE~*!/BE^V*w.~5!sLE^c*w' ^1.xL~'/m~%']_~(|-^1,*_ey~*reWAVE~&'u\t  ^+*y.0x0~+-uGUS~*!I~*!W~-!mFRONT~&!; ~0!r6)``\t\t~&%Odevice_~%2E~'!6~%2H~%!5~,&)int mode^.",
    "%!P~%%N16^)&V21~.!=UNS^)&v12~.!>LOO^'')C^+%9X~%!=BIDIR^)-3u8~2![^(*A[~+XQ~%!?SUSTAIN_~%]m2~/!AENVELOP^'*4C~.!?FAST_RELE^&,5T^-*Bb~%!EVIBRATO\t^3'=6~%!DTREMOL~'!",
    "D2~2!D^+&-c4~2!BFRAC^(%]I^)']9~.!G^&+NH~0N1~&!?MULAW~,No``\t~%7p^&-QP~&!.oop~&n',~&!/en~4ml~/)sbase_freq;~5!=note~1!=high~6!=low~)!<int panning~(!2detu~&!3~/%Zc",
    "har\tenv_rate[ 6 ];~5!C~&r-~'!E~2&M~%!Ltremolo_sweep;~9!Cra~/&;~-!Bdepth;~2%,vibrat~9%,~(!C~6%,~(!B~*%,int\t\tscal~&(Xuency~0((~(!Dactor;``\t^(%Gq~%!dvolum~((D\t",
    "\tfractions~)!5^(-X?1;~/!aspare[2~%(=~*?v1]~&nC^+/(Lex~*2i~32_SYSE~'6X\t~-1g^+%tTMAUI~4!G6)~621~+,b~.?v~.%w~5m0~(%jEQ_NOTE^(/F-~+!:FM~)!<~+!J~2!a^,+OO\t~+!_N~+!",
    "]N~-![WAIT\t\tTMR~%!-_ABS~-!CPGM^&&5i~-lE~%%(~+!>~-!N~-!KSYNC^&'ez\t~)C%~-!EMIDIPUTC~-lwEQ_DRUMO^-,vU~)!9FF^,)biSEQ_ECHO~&%0ECHO~-!>AFTERTOUCH~-lrEQ^,+0:\t10~5(",
    "j\t   CTL_BANK~)>V^,'?3~(!EMODWHEE^'&Ja^,)AT~&!gR^&+vI~&7Z~0!BFOOT^1&MT~&!>PORTAMENT^&0DY\t^.&mt~'!IDATA^&)pq^0&]I~'%pAIN_VOLU~'!h7~1%rALANCE^(&Lv~1%UA^'&6]a~0!",
    "=EXPRES~%te\t0x0b~-,S~'!HGENERAL_PURPOSE1~.9f~6!I2^/*C'~5!I3^/(sU~5!I4^&()5~1.H~)'fMPER_PED~&Gv4~1%m~';W\t~6!B~&Tx~5!>~*):\t^.,u'~(%(OSTENU~'!C~1&DSOFT~+%k3`~4%",
    "K2~&%L5~B(J5^.,u!~6!I6\t0x5~A(J7\t0x5~A(J8\t0x5~2&.EXT_EFF_DEP^&&7e5b~0!G~'>P~+!Gc~0!GCHORUS~+!Fd~1)VETUNE~+!Fe~1!kELEST~=!GPHASER~+!Ff~5.TINCR^&-%%^.,vz~,!HDE~",
    ",!H~1(5NONREG_~%i%NUM_LSB\t0x62~A!LM~&!L3~0!L^&%:W~1!w4~A!L~'!w5~2-YRL_PITCH_BENDER\t^-%+/~4!F^&*[r^-.t-~(!K~,0k253~1!D~-292~++CSEQ~*25~+0RSEQ_VOLMOD^.&-o1^/&5v",
    "VOL^(&/IADAGIO~*9n~,!?LINEAR\t2~7;8FULL~%vJ^&&%Y~A;k^(,;d^.)p]~%8H^'-!'~%!>~'NR^62,z~)hs^&%2?32]~+?4~-i7~3O&\t~-?BFM~4>s~+mmOPL3~4!G3~)?>\t\t~&??~(?<~%B*nnel~%N",
    "]~-&&\toperators~0BB~(cu~%&,~%Dename[30]~(CR~-%4\t~&!V^&,%<~*BiNTH^'-y.M\t~-A%~*!=~'cv~+)n~+!A~&lR\t2`~-%5sub~.%8F^'++A^'%0J~-<E~)!AOPL3~0<B~%kG~&%9^'%0'0x40^,0",
    "lI~%%q~&!G^)+zQ~+9a~,!DGUS\t\t\t~1!V~5!P~)S|~+->~%:=~'&hperc_~&SD~&!4nr_voices~+!4drum~)!3~&)Ubank^(0)i~.IFcapabilities~0(zCAP~+r=^3&OW~*!K~*'q^0&OL~*!HINPU^-&R",
    ":4~(*bummies[19~0Iioun^&%w4r~.+N ~&+N2~(+N cap~(,/~-)ECAP~))D^*-wN~)pe~*,K~1,L~+,M~;'Y~*!P~',l~(!4~(&O8~+JA^20PL~/Jvcmd~)M&nr_args, nr_^&.XZs~7KP~&&0$ mpu^(,;j~",
    "6jP~%'9PRE~*p>WR('m', 0~;t[MPU~+xG~'!U1~>!UCMD~.!T2,~0%r)^2%;ZT^&&]I^/%%;P^5%%;DSP^0%%;P^5%%;~%!MPEE~+%dP~&%d~4&<~%!RTEREO~.!S3~:!SGET^'%qz~.!W4~;%1~&zH~%!W~,!:",
    "ETFMT~4!UCHANNELS~.%1^1%%'OUND_PCM^(+WX~(!Z~3!q~9!Y^(1/S~,%87~:&GPOST~/(X8~6&sUBDIVID~/'N9~;'NETFRAG~&Aw~+!X^)%%E`~7(fFMT^+%%GP^:%%G~*(I~-%05~0q6~%jSQUER^,.Z70~",
    "/!DMU_L^(,ub~0qV~%!EA~/!D2~/!DIMA_ADPCM~-3[~.!HU8~,4!8~/!B~&lN^.&vv~1!EB^-,4t~0!E~,%/4~0!BU~/%/8~4!EB^/.Zx~.'MPEG~)!C2~1!CAC3~)!B^&.Ea~13qaudio_buf~*5Q~%6=fragm",
    "ent~%3a~)!5stotal~.!6~%9G~(!5^'&6M`\t\t$~/%*;~8+6O^'+Hj~,+82,~/!e~80bI~3!d3~F!d^*.X+~+.I14~8%8CAP~/-4~1,[~%0DAP^*+Sk^-&e9~0!JDUPL^+&ea~-)]~*!qAL~)XX~1)f~(!JBA^(",
    "*>e~+)k~1!JCOPRO^*,?%8~%!K~1!J^('3D~'!K10~4%AMMA^)*B>2~6!FULT^)))n4~5!G^&,fU~&!F8^.&tQ~.(N~)%f~,(Q6~=1e~-!WW~0!W~(%ZPCM^(.ZD~'A?~41L~+!JOUT~.!K2~1.*cou^'.<q~%.&",
    "~+-C~'!0lock~)!1ptr~%=[~*!Z~9-VIPT~/'*7,~+!]~8,:O~1![8~.![~0&<buffmem_^(-24~*?m*^&/nP~(&7~'FO$~-!V;~4%WMAPINBUF~-%X 19,~-!b)~7!bOUT~1!c20~D!cSETSYNCRO~.::2~7>sE",
    "T~(.q~-!R2~9(-DELAY~/%k~(>w~81!~&<u^&&|h~-=n~;?%BIND~(=X~/!Z~51f~%!T~;:J~)!H~%Lu~6-!~)!HSU^)'Yy~/:P~*%n^&(x[LFE~5:T~)!LHAND~%E-~4:]~)!JM^,,N11~4&2MODEM1~6:d~.!I",
    "2~6:k~)!II2S~6:l~*'&PD^+.m?1^,%%9~/+B~&!M~+1P 66~=F4~+!V~(*n67~0)P~%!I_PR^(%'x~0!=N_AU^*)Dp~.!?COP^',bk4~2!x^*'p&~/!Y~&(R7f0~0!=^'')X0~1!<DR^*)YL~.!=V^('(o~6].~",
    "+FFRO^&0_1~,'k2~/J!\t  APF^(+j20~0!:^'1Xw~,eyAPF_CPUINTENS^,0ff~*HMREA^&*wP~//Q~9Ib~%!U~.J?~))>~>!Y^&&rI~,!U5~>!U~,J:~(!W7~2HT~/Jt~&%6~;Lb~/!T~&'!~0O9~3!S~'KG~/",
    "KY~5&8~%/r\t~0Q7~3!O~'Q&~/Q8~4!M~*LG~4L_~4!V~,LG~6Lb~3!Z~)LG~2L[~7%3MT~G(B~+F9~4FP~6!VI~5!VI~8!V~*E|~3F8~6%1~&F'~2F;~6!R~)AM~5BC~6'J~4!XS~?!X~(;Q~4;j~7'R~%?0~2A",
    "'~7(a~3!RO~6!R~*>Z~3>r~6!T~(>O~4>h``~4N5copr_~&AT~)D/~'[I~(Ag^'&(p~(%ACP^)0U_^.'XYCPF^'/k9^0'cGCPF^&/jx~(6p^1%98offs^2%5:^-%OV~%ER~)&(;~6&Fdebug_buf~8&Iparm1~,!",
    "02~/&f~,%n$~/%!~7%Emsg~)%>^:%3)~/&Cmsg~2GrCOPR~&2>~-u(~(CgC', ~3bb~%!ZLOAD\t~*!SWR~'!S1,~,'b~6!cRDATA~4!d2,~/')~7!gCODE~4!g3~G!gW~0%P~(&k4~H!g~0%P~(!g5~H&;UN\t~",
    "4&:6~G!fHALT~4!f7~G!fSENDMSG~4!i8,~)*Y~8(NV~.!bR~(&z9~,!b~7z[~%0rMIXER_NR^&*U'S^-%z&~+!E^'%%Q0~5!ABASS~,vq~+!>TREBL^,&Om~,!A~%r/^-2'H~*!?~%b]4~6![PEAKER\t~6&%LI",
    "NE^-2'[~*!>~%I77~5!>C^-+A.~,!=IMIX^-2'7~*!>ALTPCM^.2'=~*!BRECLEV^.2'E~+%&GAIN^.2'K~*!AO~&!A3~;)1LINE1^.2'a~.!A2^-&*m~/!A3^.2'U~*!ADIGITAL1^.2'a~1!D2^.2'j~1!D3^.",
    "2's~+)WHONEIN^.2'w~/!COUT^-&+)~,+bIDEO^.2'i~+(EADIO^.2'W~+*'ONITOR^'-!E~.!FONOFF^&.,G28~6!?AX^&2&'~6-qONE\t31~:),ENHANCE\t~0!Y~6&%UT~H!NLOUD~2!N~0%S~&/e_LABELS\t",
    "@\"Vol  \", \"Bass~%!,Trebl\", \"Synth\", \"Pcm~&!HSpkr~%!,Line \"^).p:\"Mic~&!FCD ~&!,Mix~&!,Pcm2~%!,Re~'!HIGain\", \"O~'!,~(!mLine1~(%.2~(!,3\", \"Digital1~+!",
    "/2~+!/3~+!mPhoneI~%%0~%!.Out\", \"Video~%%Xadi~%!,Monitor\"$~7'LNAMES\t@\"vo~%'6bass\", \"treble\", \"s~('Ipcm~%!3peaker\", \"line~+%gmic\", \"cd\", \"mix~'!Y~%",
    "&>re~%!?ig~''=og~.'=l~('=l~('=l~('=dig1~'!+2~'!+~,'1ph~&!ypho~&'+v~('+r~('+m~*'+`~82D^&)(8^,&vk~,/nEV^(+'Pe~8!h~(!Ed~64QAPS\t0xfc~+Tt~%!C^&(PNCL~'h;^4%-K~,6DTER",
    "EODEVS^.'9[~-4-UT~'&Ia~8!D~(&'9~3'8ASK~(9:^&&Ta~29T)~4!X~%9R~3!WBASS~5!U~'9k~2!V~&!<~5!X~&:*~2!W~%!;~5!V~%:A~2!UPCM~6%0~':U~3%2~&!=~5!Z~%:p~3!XLIN~6&D~%;.~2!TMI",
    "C~5!SCD~4!RCD~5!Q~%;V~3!SIMIX~5!U~';o~2!V~&!<~5!X~'<-~2!X~&!<~6%l^'0sS~1%lGAIN~5!VO~7!VO~9!V~&<k~6(a1~9!V2~7!V2~9!V3~7!V3~5!V~)=S~2!Y~(!>~<!]2~:!]2~<!]3~:!]~6%|",
    "~(>G~3-c~&!=~:!ZOUT~8![OUT~6*s~%>Y~3*rADIO~5!V~&?T~31zIDE~6!V~(?L~3.H~&!=)~639~%>-~4!ZUT~6/Z~(?7~2!W~'!=~6*zOU~5/fLOUD~+sf~(.6AD(dev)~'fw('M', dev~5gT~*!X~(5b\t",
    "~+!n~D5h~*!g~&5n~7!e~55s~*!c~'5y~8!e~76'~*!g~&6-~8!f~663~*!e~%69~7!c~42j~+%H~'6E~8%I~76J~*!h~&6P~7!f~56U~*!c~%6[~7!b~46c~*!aCD~9!_~36n~*!]~&6t~7!a~56y~*!c~'7'~8",
    "!e~77-~*!g~'73~8!g~779~+&7~%6e~9&8~56k~*!eO~=!eO~?!e~&7X~<)j1~?!e2~=!e2~?!e3~=!e3)~9FAAD~'2s~8+>~42x~*!c~(3&~7!e~83+~+&8~%31~8&7~.36~4*aSRC~<*aSR~<-V~(H|~7!g~'!",
    "C~>,6~<!h~'!C~<1>~*Ht~81B~)!F~</z~%r.~80!APS~17,~%xq~+7-W~F7.~&yP~'7/~,!p~I7/~'zp~+70~2!g~:71~&!e~'72~8!f~<72~&!h~-73~2!h~;74~&!g~+2u~2!e~92s~'%L~-77~3%M~<78~&!",
    "j~,79~2!h~:7:~&!e~+7;~2!d~97<~&!c~*7=~2!b~87>~&!a~,7?~2!c~:7A~&!e~'7B~8!f~<7B~&!h~'7C~8!h~<7C~'&;~,6Z~3&<~:6[~&!gO~>!gO~A!g~-7H~6)x1~A!g2~>!g2~A!g3~>!g~97M~'+P~",
    "+7N~3+Q~97O~&!e~.7P~2!g~=7Q~'&>~+7R~3&=~:7S~)*rSRC~<*r~%7T~0zgmix^'%f6`@` ~&zRid[16];~(!2^*%fF  int  modify^'1::r~(!:fillers[10];`$~+%(^2%!0_old_~N%J$~0!X;~6'3^",
    "*&YiR ~&6p101,~+%_~0(VOL~?!b~/%H~)v>^6%t4~&!Mrecord[128]~7%|^(0:O~,8r102,~-!h)~9m5AGC~*xx~&!c3~;9W3DSE~0!T4^4&M=~-6h^&%wH1~/%x^2%]u~2!X2~0!X2~C!X3~0!X3~C!X4~0!X",
    "4~C!X5~0!X5~,'0^3%0,~&(ivol^&.SH @~',wnum~9-Slevels~(,>~/!i~7*>GETLEV^-%gn~&%t6,~0!i~6&_S~8!h7~3!h~/yPOSS_GET^),Dg~.-718~0'L^2%'LEV_SEQ^&/AI\t^.)T3EV^'26E~%!;1~",
    ",!;CHN_COMM^&%ZK^,/Oj~&!?VOI^&-,+93~-%9YS^&%ZY94~2%ZMIDI^+&?V~,%Z~*!>~&%?~/!=KEY_PRESSURE^&)V)~2%(^&&1'^&&>Y^-)QL~%!BPGM~+!BC~/!BCHN~,%/D~0!d^)&-6\t^&)Q*~.!C^',",
    "az^)*[kF^.(/)^)&B(REL^,&&1^,&BA^,'1f^*&ay3~/!7ART^,%+(^.&ay5~-!;^'&ae6~-!8^&&AH8~.!h^&%?<9~.%:PP\t^-'1/^(&dkSIG\t\t1^..3-LOCL~&%pAUDIO\t^(.Lw^8&-s^'1Q*BUF()^&&D",
    "c^&1b7T~%!5``void seqbuf_dump^&0Q;;~.!lPM_DEFINES^'2K|foo_bar___~.!MLOAD_GMINSTR(~'KQst^,%7.~*!IDRUM~&!Hdrum~+;q_^(&/iRN extern~-!f~,&;~%x;~,!T~.7s_~&&U^'1S-~-!",
    "M~%&D~&!Clen; ~7!?ptr^*'0MUSE_SIMPLE_MACROS~<0=~&(QFIN~%(Plen)^0%<*~(%qlen];~/%d = len;~.%Z =^+'Zy~%&,NEED~*%.if ((~*!S+~%!:) >~+%')~-)o)~.!uADV~*!t~+%G+~%%_~.&",
    "VUMPBUF\t\t\t~+!w^11Xi~,'7~1&+^2'&f^&&7sUME_MOD~%RW, mode)\t@~-!e8);^&%&;~(%x[~*&(] =^-&6Z~:!N+1~(!P^'&9<~;!O2] = ~%T?~;!I3~%!I~%&,~;!J4] = 0~;!E5~A!E6~A!E7~.!E",
    "~+)[8);$~/(n~)7H~&(Devent, chn, note, parm~&.E\t\t~P(_~,8S~A(_~A(1~&(W~%%r~C(Ychn~B(X(not~=))~%(_(~%'&~A(e(0)~](g~,-0~%5n~%;4~&(g~+(_vol~'3(~/)3~+;k~1!U~0%-OP~Z",
    "%,FF~?%-~,=(~1%0pressure~;%5~,!g~6!c~3,?~&A+~2,Ap1, p2, w14~b,B~&%0~|,C~],Cp1~D,A2~)!H*(^&&c<*)&~9,Jw14)~>0n~69'~%E,~&(Wbuf^'00t~((Hint ii, ll=~%63;~(!=~/;E*buf",
    "p=buf~(%R if (ll>6)ll=6~-%k~L)C~%%o~N)=for(ii=0;ii<ll;ii++)~(%f  ~3!jii~&)bbufp[ii]~/!p~%!k<6~L!p0xff~G0f~,GH~+.O~3.I~,-X~1H.~/![, 0,^&26u~,)hE^(&xa^'&g%_^3&g&~",
    "*!:~,%aatch~<%[~*!Z~,!V~5%V^((W'~*%-^''1+ler, valu~>&t~)Kg~3!e0~(!h~.%C^&&TJ~+%B~B%5~*Kr~'!V0~-%,~.?92_X~.&Rvoice~4&T~|?O~(!P^*&jL~j?R~%&D~C2T~*&g~C2](~&'0&0xff",
    "~C;,~&!R>>8~C!U~DA&~-,nITCHBEND~-)1~'*D~=)V^1&[V~)*C~2+K^&&[t~f%2~&!o~5%8^*&]h~8%6~6%1^,&_K~'!S*1^,.r%SEQ^,&_N~Q%-~+!b, ~&)H*16383)/1^,'N0^''C,NING~-!kpos~>%0PA",
    "N, (pos+128) / 2~0=MTIMER^&0C[(ev~'FX~9=3 ~4+-0~'7o~&[g~(98 ~:7rev~*9b~8.Y0~A.U~(!E \t*(^-'*G~6<>4~+F6 ~LEH~%'H()\t\t~-'R~)YP^.&P4~(Dw~<!YOP~1!X~(Z0~;!]~(!G~1!c",
    "~%[ZTIME(ticks~4!c~(](, ~&!G~/TxLTA~E!hREL~5!hECHO_BACK(key~4!eECHO, key)~1:U~%]m~'3%~3!a~%!C~5/YSONGPOS(po~5&,SPP~&-M~-!YTIME^&((2TURE(sig~5%E~&_W, sig~0-_~%gl",
    "~j-_~)hg~|-c~|-c~;-cPLAY~%cy(dev^&3;H\t~-'Z~/dI, ~(!L~17dMIDIOUT(^&&b0, byt~1<]4~D<]^(',)~BFl~%%0~E<T~?</3~9:M4~4:MWR~%Df(~%CUx~+JR@if ~+aT)~,_R(~&%Q~%J7write(s",
    "eqfd, (char*)~'!u)~&!v==-1~&!|    perror(\"Write~&D|: /dev/s^&'6Qer\");$~4%x2~2%y(~-%i, ~C%a^>.9U^&1eK^2(,NWAB^3(,L~&!9^L1fU^31g3^348l~.!A^)1g5~-0;^21Xw^,1Uc\t\t",
    "\t\t^&4pz^)1VC &^(1L9^&(_RU)^')%F|~>!Pff00U^'*D>^.3F4^11]2^,1XB~-%R^&1Tt~'%%32)^*&T-UL~%%W24~%%X~?!U~%%[~&!U~'&4~=!U^&);LUL~%&8~C!U^()<&~'!U24~=&n^*1YSu64~/&n^&",
    "1Xz~'%+64~)&n~(!!ffUL~&&C56) |~I!_~&'&~&!_40~J!_~('.~,(=~D!_~*'6~,(F~B!_~(![~'!_~)(N~?!_~*![~*!_~D&&~,![~*!_~B'E~.![~*!_56~<)whw~2,k~B,5~),j16~C+Y~-,51~>%_b~P%_",
    "ff~+.L~F-<~(.K~)0.~&!!^)1SJ^(2Sz ^)1SFf~'1n~&!3val)`@^,(+& (__arch~'2>)^+1SW~+!:(val)^(4;(~*!F~13(~(!K~%5_$~8%l32~(%l32~&&[~3%l~,%k32~5%k32~F%k~+!K~>%k64~(%k64~",
    "&+t~A'Y64~5%l64~*%l~-&N~%8264_THRU_^&27Z^'(Ceh = val >> 32^)(YWl~'!9& ((1UL^&2uL2^&3Wf;~)%J~)./~*()l))~(!P|^,1ng~(!Dh^'2Ik~<'c~+&B~H)P~%.n~0)Q^'2]E~''Dhw32~3'[~",
    "%!a~D)M~-!L~I%ib~C%ib~6%i~H+:h~4+;~%<c~(%8HAVE_BUILTIN_BSWAP16^-24Y~+<y~&<*__builtin_bswap^+1n<x^32N1~)!f~(95^*1nl~'!m~)&+p(x) ?\t\\`\t~6>N:~&!i~*0rx))^04J.~8&Q",
    "32~1&Q~'3L~&2R~/&Q^+1r(~8&Q~%!f~+&Q^'1rU~K&Q~&%P~.&Q~%!7~J&Q64~1&Q~'=[~(.R~-&Q^+1ul~8&Q~%!f~+&Q~&.|~L&Q~&%P~.&Q~%!7~*&Q^71hy^.3_i~&%b^'1hy~.!>y~(3/^54'O^11ms(y~",
    "3-U~'(?y~1-H`~.'8~';b~*'9~3'2~+*U~5';~(<O:~+';~'!7)~6%Eb~g%Eb~3%Eb~,%E^?1mY^(1m.^21na~12/b16p~6;5^&1nt~4(Q16(*p~1(R^?1q]^(1q1^21rd~2%g32~5%g^(1rw~7*<~N%g~%;-^(1",
    "u4^21vg~2%g64~5%g^(1vz~4%g64~4%g~47B~+'Mhw~H'N~%!M~794~9%g~%,?~T%h~I):h~7);h~<)<h~A)=~)%fvoid^+1nz~A,as`\t~.!3~,%R*p = _~/,t~+%O~7*k~+%S32s(~A,M~.%S32~8%S~*'G~D",
    ",D~+%T64s(~A,<~.%T64~8%T~*,P~A*G~*%Qhw~B'-~%!G~,%S~&!X~5%T~,,A~L%U~C(bh~0(ch~:(dh~4(e~;]gv^4(h7V^3(h3VT^1)q'MIN_N~%oLSOLES^,/u]AX~,!=\t63~.!aVT_OPENQRY\t0x5600^",
    "*)N|t_^')SD^&'I4^''Nz~%!/waitv;`^''s'relsig~)!2acq~,!2fr~%!1^+(yqVT_^*0?D56^+&E)VT_S~,!=^+01MV^&/i[^/'nC\tVT^(36_^-'Rv~&!TCKACQ^''n7~*&R^(/Es^/(-*v_activ^30;0v_",
    "signal~5!=tate~3&ZST^&.uJ56^+)B!~%&[NDS^&5,z6^,0GAV~%s7^'0C&5605~-!>ACT^&'[K~%!?6~,!>WAIT^)*Pb56^+'oMVT_DISALLOC~)!b8~-'0izes~5'1rows~4&mcol~5!;scroll^&'2=~.'2R",
    "E^(5+i609~,%Mconsize~i%Ovlin~5!T~7!;vco~5)Mc~%!;~4&<X^('XD56^++ySVT^&/:BWI^&(2h~%!CB~,!CUN~+!E~%!CC~/*UHIFONT^'.&+560D~,'Meve^30.F~%!9~-%x~%s6_~&%6^1&qW~)!DBLAN",
    "^(*3<2~2!CUN~&!E^/*R:~)!D~')K\t^/*QHVT_MAX~&!H~'!AF~/&,oldev^000Gnew~2!8pad[4]^.(sv~',l~&%0~%'LE~-,Jet~%/A^'),c~-!v^'02<^*08C~(2dm^)2_J~.1[~..EF^M2ip^+).Y^32nO^",
    "*2Zl^32nJ~,!A~1q5^92]N^O2kf~0s1~(%L~0s3~/!;^<01K~;XD~,a|~-XG\t__asm__(\"~%QEl %0\" : \"=r\" ~%Wf : \"0~'!/~+]cval^.2;3~+%1~.!1~=ba~,az~0be^-2v4^9)%7u32 a;~*!/b;",
    "`\t\t$ s;`\t^(/oV;`\t$ v;`\tv.u~&bA;~4&w ; ~(!/1 ; xchgl %0,%1\"^&(37~)'>.s.a),~+!1b)~)!F0~,!E1~)!D~,'f.u~)>:~.%Vq~N(R~)>f~3(Y~0(0~M+vunistd~5+xUNISTD~4+z~)!=^2",
    "%b__X32^)3Vo^&-Rm^*21D^B3!%~&%a^R2|x~'![^>2|s~'!I^.2|n~R'R~%!g~.'T~''5^22|g~,!<~+'JNR_read^,%hK_NR_write~+D4~%!8open^+)G3~%!7close^+)G+~%!8~%AL4~.!7f~%!85~.!8l~",
    "%!86~.!8poll^+)FY~'!Meek^+)FP~%!8mmap^+)FF~&!7protect^,)Zy~&!<unmap 1~/&Pbrk 1~/&Prt_sig^&(>/^,44+~+!Aprocmask 14~4!C~'-_1~/&nioctl 1~0&oread64 1~/&sp~%(Y64^,*0",
    "Y~))0v 19~3)2v 2~/&waccess 2~/&wpipe 2~/&xselect^,42T~&!:ched_yield 2~/&omremap^,42T~&!:sync 2~/&imincore^,41o~&!;^&0a> 2~/&hshmget^,41]~(!:at 30~1!9ctl 3~/&hdu",
    "p 32~1!72 3~/&epause 3~/&]nanosleep^,4oW~%!=getitimer 3~/&falarm 3~/&ds~*!T8~1!qpid 3~0&fendfile 4~0&iocket 4~/&iconnect 42~2*-pt^,4!;~)%.to 4~0,Eecvfrom 45~2!T",
    "msg 46~2!U~%!;~0&ohutdown 4~/&nbind 4~/&llisten 50~1'Csockname 51~2'beer~&!?2~4'Kpair 5~1&w~%!zopt 54~5%=~%!>5~12wne 5~/&|fork 5~/&xv~&!9~/&uexecve 5~/&wexit 6~",
    "04eait4 6~/&okill 6~/&hu~%'&6~1&c~%-l64~1!:op 6~1)Y~%-l66~1.+dt 6~0/2sg~%%)~04rsgsnd 6~04usgrcv 7~04ssgctl 7~/&_fcntl 7~/&aflock 7~/&af~%1A7~07Mdata~&!=~/&dtrun",
    "cate 7~0)C~*!=7~1*9dents 7~2/7cwd 7~/&lchdir 8~/&kf~'!:~/&kre~%)88~/&lmk~%!Q~07]m~%!9~/&lcreat 8~0:>ink 8~/&dun~&!:~0/*ym~&!;~37I~&!<~1&bmod 9~2&b~%!:~01shown 9",
    "~0)O~'!:~/&bl~'!:~/&cu~%:Q9~24btimeofday 96~1!Arlimit 9~2)Qrusage 9~07Q^'3Zl9~/&otimes ^,+Wb~&6jtrace 10~21uuid 10~01qyslog 103~1!Tg~%!T~1//~'!o~1/1~'!T~2&re~&!",
    "U~2&qe~&!V~0&petp~&!<9~248pid 11~24qpgrp 1~0A5sets~%!U~1=<tr~&%i1~24ir~&%j1~24hgroups 11~3&|~(!>6~3!ws~&%:~3)v~(!>8~4!Z~&%W9~4!Z~%!>2~4'.~%!<~2'.f~&%8~2AJtf~'!t",
    "~2*+~%'f~0AIcapget 1~0AJcaps~%!;6~5E7ending 1~0AS~&!Ctimedwait 1~0A]~&!Equeue~%-61~0Ai~&!Esuspend 1~1Arigaltstack 1~0Axutime 1~0A|mknod 1~0B%uselib 1~0B'persona",
    "lity 1~0B*u~%JG1~0B'statfs 1~0B)f~)!<~20:~%!:~3-Drior~%%L~1B,~-!A1~4G5setparam 1~0B:~&!Dg~*!D3~7!g~%!,uler 1~0BQ~)!k~,!H5~7!H_~(&'_max 1~0Bo~4!Lin 1~1C'~%!Lrr~%",
    "!Ointerval 1~0C5m~%;S1~0C7mun~&!<~0C9~%!Tall 1~0C7~'!W~&!?~/'pvhangup 1~0C5^'&XHldt 1~0C6pivo^&0IC 1~0C7_sys~%NY~0C:pr~&!:~/'5~%XV~(!?~/'*adjtimex 1~0CFs~)8;1~0",
    "CLch~&%l~0CN~%>y16~2I3t 1~2CO~+9g1~0CV^&0PF1~0CWu~%!;2 1~1CYwapon 1~0C[~%!;ff 1~0C_reb~&&>~2&uhost~%?E17~2.'domain~'!C~/'&iopl 1~0Coioperm 1~0Cq~%?je_module 1~0",
    "Czinit~*!A~/'/dele~,!c~2:]^))f1yms 1~0D2query~*!f~/'Dquota~%*Z~0D:nfsserv~%!?8~37emsg 1~0DCpu~(!<~0*Efs~%,O~%-i~0DLtux~'!<~1=pcu~&2Z8~4And 1~0DVreadahead 1~1DZe",
    "txattr 1~0D]l~+!>~/'-f~*!>9~2',~(!=~/'-l~+!>~0Dn~+!>~0Dris~)!>~/'/l~,!?~/'1f~,!?~1'5move~(!A~0a7~.!B~/';f~.!B~0E0~%O_2~0E0~%:K2~0E.futex 202~778affinity 203~76?",
    "~+!G~2ED_thread_area 2~0EMio~%Ekp 2~0EOio_destroy 2~0ERio~%EUv~%N!2~0EWio_submit 2~0EYio_cancel 2~3E[~.&&~0Eflookup_dcookie 2~0Enepoll~'1, 2~0Er~'!Btl_old 2~0Ew",
    "~&!Cwait~'!D5~1*Xap_file_pages 21~21K~%Q864 21~2.8_tid_addr~&dX~14l^'4dr~'082~0F8sem~%Cfop 2~0F9f~&c_64 2~0F;~%a6~)';~0F?~&!B~'7k 2~0FE~&!Cg~)!C4~7!Coverrun 2~0",
    "FV~&!F~&52 2~0F]^&5qb~*%N7~4!C~*%N8~7!Cres 2~0FW~&!B~*e22~0FYexi^'46o 2~0FX~**7 23~6+<tl 2~0Fdtg~&0*~0Fd~%GSs 2~0F]vserver 2~0Fam~%c?2~3ff_mempolicy 2~3fk~-!C~0",
    "Bnq~'qF~0Fjmq~(W02~0Fhmq~%)Cdsend 2~0Ff~(!Breceive 2~0Fgmq_^&2Ta 2~0F[mq~%FXet~%4!2~0FVkexec_load 2~0FJwaitid 2~0F9add_key 2~0F+request~'!A~/'>key~%)M~0F0iopr~&",
    "3T 251~5!?~%mt~0F2i~&&q~%>Q 2~0F7~(!Badd_watch 2~0F>~(!Grm~)!F~0p5igrat~)1k~0FKopenat 2~0FL~%_x~%!<8~3O;~%!<~0;y~%[Vat 2~0FGf~&,X~%!>~/'Enew~%Ni~%!?~1h&link~%!=",
    "~0bT~%c,~%!=~0;x~(!V~0M,~&b-~%!>~3?-~)!?~0PZ~%au~%!=~0;n~&uc~%!>~/'0p~&uO6 2~0FXp~%z>2~0FPunsha~%tv~2Vu_robust~%>p 27~2W!~/!E~0;mplice 2~1h[ee 2~0FOsync~&8I^&3o",
    "s2~0FOvm~)!w~0*Bov~)+:~0FM~%*)n~%'S~0FL~&3Xp~&3x~0FP^&%COfd 28~47ufd~)8=~0FT~%=[~%!_~0ksallo~%k<285~6!|~)7J~0Fa~(!E~)7L~0Fg~&us4 2~0Ff~(&E4 2~0Ff~'&%2 290~:>;1 ",
    "29~2z:3 2~0Fepipe2 293~:1G1 2~0Fep^&%&h2~0Fap^(%&j~1F[t_tg~-]u2~0Fdperf~&&Z~'70~0Fg~%xCmsg 2~0Fc^)2j)~%3N3~0Fk~)!Cmark 3~0Ftp~&T464 3~0Fxname_to_^&2v*_at 3~0Fxo",
    "pen_by~-!G4~4<t~'Ug 3~1jHyncfs 3~0Ft~%|Omsg 30~2;Bns 30~3rmpu 3~0Fhprocess_vm^'%,!3~0Fo~+!F~')B3~0Fqkcmp 3~0Fgf~,SI31~8a!~%:u31~8_w~'!C5~65D2 3~2jgcco~%%c~3jean",
    "dom 3~0FSmem~*043~0FP~&<V~%2W~%<[3~0FUbpf 3~0FO^&%!bat 3~0FKuserfaultfd 3~0FImembarrier 3~0FF~%am2 3~1jqopy~,4O32^4%28v2 32^5%29~%!=~/':pkey^*%5'3~0F4~%!C~%37 3",
    "~0F/~%!?free 3~0F.statx 3~0F)io_p~*O03~0F-rseq 3~1jlid~%4Fnd~'3L 4~0'Yio_uring~'Ps425~7!Denter 426~7!Dregis~&!G7~3/otree 42~48[~&bc4~0'kfs~%2U4~0'g^(1B8 4~0'ffs",
    "~'!r~0'hfspick 4~0'a~&'H~'%6~21Wne3 4~0Ioclos~(*u43~5C)2 4~0Iu~&%9getfd 43~8>|2 43~71a^(%7244~:;n2 4~1I|ount~)0|4~0J!~(ba_fd 4~0Ixland~%4c~'dyruleset 4~0J.~)!Ma",
    "dd~%!J 4~0J2~)!Grestrict_self 4~0J>~&1Gsecr~%%87~7'4relea~%'5~0'vutex~%K0v 449~;NS_home_node 4~0Jbcache~%t?4~0Ja~(EF2 4~0J_map_shadow^&5>/ 4~0Jd~(%qke 4~0JZ~*&5",
    " 4~0JT~&!?~%M-ue 45~3v+~'-)~0JWlis~)!>~1eYm~%Ewself^&1CP4~0Jflsm~%'_~+!G~0Jolsm~%%4~'8Zs 4^&5%B^;5rL~*-t^3%k6^&3Xb^&0)W^25rV~-!A^*%IC~,!;UNSHARE^(*[[^-5;.~,!L^(",
    "1Kt~'!L2)^>5lK~&Eq~-&,F^&,cT^,+OS~*!6~)!7~'!6FL_^(%fw~&%Q ^.)Ac~)!JKEEP^),;y1~3!EPUNCH_HO^&)md2~3!FNO_HIDE^&1'1^&)Z<~5!!~2!aCOLLAP~('L^')YH~>!WZER^'0.f^')C-~C%5",
    "INSERT~*!Y20~E%o~')Y~*![4^>+ghsta^5*[cTA^4*[a~&!9^>+UT^+%S1^'5r0_) ||^,*IjGLIBC~'!:~*!2 ~'+7~'%DS_IFMT  0^01=+S_I^&0za^01;DS_IFLNK\t ^01<%S_IFREG  ^0-S>S_IFBLK ",
    " ^01=;S_IFDIR  ^0)tOS_IFCH~%!<~2%3IFO~%&+~0!<SUID  ^0-MzS_ISG~'!<2~0!<VTX~%!<^.,E4S_ISLNK(m)\t(((m) &~''O) ==~('')~-!SREG~;!SREG~.!SDIR~;!SDIR~.!SCH~<!SCH~/!SBL",
    "~<&7BL~/&7FIFO~;!TIFO~.!TSOC~<%/S^/*bN_IRWXU 007~.(QRUSR ^..gLS_IW~&!92~.!9X~&!91~/)%RWXG ^.-GHS_IRGRP ^.-IqS_IW~'!92~.%(~'!91~1%(O 0^-+;nS_IROTH~%!94~-%(~(!92~",
    "-%(~(!9^**dM~+!!^+1Vwx~%Vpstam^'5Wss64\ttv_se^)1Uz\ttv_n~(!3s32\t__^*3Rh^8)sz~1!!~,%D^**ql\tstx_^,1Wz~%!4blk^*1SR64~%!7^)*n,s;~-!d~%cu~-!eu^*+18~%!3g~(!316~&%>^",
    ")5Z:16\t^'1US0[1]^)*s!~%!Jino~-%P~1%d^))3!~4%w~'&P^)%rj~/(>~'!R^&+3M~;!Gb~C!Gc~C!G~%ut~.'ar^11]6~+!:^*1]8~'!:~6!Q~+!P~,',^,1XM~(!Nio_mem^)*o&~.!=^&*),~(!A~(!r~'",
    "(p3[12]^'2/_~09QSTATX^/1VB^01XkX_^/)WM2~0!DNLIN^,,2i4~0!EU^+3r1^11XJX_G~,!C^01X?X^'1i2^+)/X~1%s~.!E4~1!EC~.!E8~1!EINO^,)/N~0!C^+&!_~%2i~0!DBLOC^+1up4~3!FASI^&,P",
    "k^)*>[7ff~1!J~-%|8~2!n^&1aL^,)Au~0!FDIO^&6)5^+)Aw~6!m_UNIQU^,-qCU~0*E^-/[L^(,1KU~5*sAL^**CLfffU~8Az~()STR^),%iED^5,36~+!NIMMUT^.,L9~+bS~+!MAPPEND^.)67~2!JNODUMP",
    "^.)68~2!J^'6hp~+%q^,.HJ~,%E^)1wX^-)Fi~2!M~%!I^-,N22~7!N^',T_~%!J~0B+~*!JDAX^')PG^)1oi~'8="]

end CInspect.Includes
